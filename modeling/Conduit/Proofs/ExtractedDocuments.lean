import Conduit.Proofs.KnownConcepts
import Conduit.Proofs.Vocabulary.Compatibility

/-!
# What is split into pages

A pipe that splits documents declares one input, and it can be defined only if the concept of that
input has the class of images or of PDFs. What is sent to be split is what stands in the memory when
the pipe is run, as it is. It has passed the check of the inputs, which looks at concepts and not at
contents.

As a rule it is of the declared class all the same, or a list of things of that class, for lists are
good for any concept. There is no such rule for a concept that refines an open one. What flows there
may be of any class.
-/

namespace Conduit

namespace Content

/-- The content is an image or a PDF, and no list. -/
def IsDocument (content : Content) : Prop :=
  content.className = ClassName.image ∨ content.className = ClassName.pdf

/-- The content is of the class, or it is a list whose items are, and none of them is a list. -/
def ConsistsOf (className : String) : Content → Prop
  | list items => ∀ item ∈ items, item.isList = false ∧ item.className = className
  | content => content.className = className

end Content

namespace Sample

/-- A bundle of an archive. Scans are images and notes are texts, and both refine what is decided at
run time. Images and scans are to be split into pages. -/
def papers : Bundle where
  domain := "archive"
  definition := none
  concepts := .ofList
    [("Scan", .full "A scan" (some (.named "ImageContent")) (some "Dynamic")),
     ("Note", .full "A note" (some (.named "TextContent")) (some "Dynamic"))]
  pipes := .ofList
    [("split", { definition := "Split an image", inputs := .ofList [("sheet", .brief "Image")]
                 output := "Page", count := none, many := none, body := .extract false }),
     ("scan", { definition := "Split a scan", inputs := .ofList [("sheet", .brief "Scan")]
                output := "Page", count := none, many := none, body := .extract false }),
     ("file", { definition := "File an image", inputs := .ofList [("sheet", .brief "Image")]
                output := "Page", count := none, many := none
                body := .sequence [⟨"split", some "pages", none, none, none, none⟩] })]

def note : Concept := ⟨"archive", "Note", "A note", ClassName.text, some .dynamic⟩

/-- A scan, which may be of any class and is an image. -/
def scan : Concept := ⟨"archive", "Scan", "A scan", ClassName.image, some .dynamic⟩

def photo : Concept := .ofNative .image

def splitImage : Pipe where
  signature :=
    { domain := "archive", code := "split", definition := "Split an image"
      inputs := .ofList [("sheet", ⟨photo, none⟩)], output := .ofNative .page
      multiplicity := none }
  body := .extract ⟨"sheet", false⟩

def splitScan : Pipe where
  signature :=
    { domain := "archive", code := "scan", definition := "Split a scan"
      inputs := .ofList [("sheet", ⟨scan, none⟩)], output := .ofNative .page
      multiplicity := none }
  body := .extract ⟨"sheet", false⟩

def fileImage : Pipe where
  signature :=
    { domain := "archive", code := "file", definition := "File an image"
      inputs := .ofList [("sheet", ⟨photo, none⟩)], output := .ofNative .page
      multiplicity := none }
  body := .sequence ⟨⟨"split", some "pages", none, none⟩, []⟩

/-- The bundle is loaded, and no pages are found. -/
def archive : Library where
  vocabulary := (Vocabulary.initial.load "archive" papers.concepts).2
  pipes := [splitImage, splitScan, fileImage]
  collaborators := { collaborators with generator := some fun _ _ => .ok (.list []) }

def sheet (concept : Concept) (content : Content) : Stuff := ⟨"sheet", concept, content⟩

def front : Content := .image ⟨"front.png", none⟩
def back : Content := .image ⟨"back.png", none⟩

end Sample

theorem Stuff.consistsOf_of_misfit? {concept : Concept} {content : Content}
    (closed : concept.isOpen = false) (fits : misfit? concept content = none) :
    content.ConsistsOf concept.className := by
  have one : ∀ {item : Content}, fitsOne concept item = true →
      item.className = concept.className := by
    intro item fits
    simpa [fitsOne, Concept.takesClass, closed] using fits
  cases content with
  | list items =>
      intro item member
      obtain ⟨single, fits⟩ := (misfit?_list closed).1 fits item member
      exact ⟨single, one fits⟩
  | _ => exact one ((misfit?_single closed rfl).1 fits)

/-- The pipe splits what stands under the name of its only input, which is declared to be an image
or a PDF. -/
structure Pipe.Splits (pipe : Pipe) (extraction : Extraction) (wanted : Concept) : Prop where
  body : pipe.body = .extract extraction
  sole : ∃ multiplicity,
    pipe.signature.inputs.entries = [(extraction.input, ⟨wanted, multiplicity⟩)]
  className : wanted.className = ClassName.image ∨ wanted.className = ClassName.pdf

theorem Extraction.define_className {inputs : Inputs} {output : Concept} {pageViews : Bool}
    {extraction : Extraction} (defined : define inputs output pageViews = .ok extraction) :
    ∃ requirement, inputs.entries = [(extraction.input, requirement)] ∧
      (requirement.concept.className = ClassName.image ∨
        requirement.concept.className = ClassName.pdf) := by
  rw [define] at defined
  split at defined
  · cases defined
  · next name requirement sole =>
    dsimp only at defined
    split at defined
    · cases defined
    · next isDocument =>
      split at defined <;> cases defined
      refine ⟨requirement, OrderedMap.entries_of_sole? sole, ?_⟩
      by_contra other
      exact isDocument (by simpa [not_or] using other)

theorem PipeBlueprint.build_splits {vocabulary : Vocabulary} {domain code : String}
    {blueprint : PipeBlueprint} {pipe : Pipe}
    (built : blueprint.build vocabulary domain code = .ok pipe) :
    ∀ extraction, pipe.body = .extract extraction → ∃ wanted, pipe.Splits extraction wanted := by
  intro extraction isExtract
  obtain ⟨inputs, output, multiplicity, body, -, -, bodyBuilt, rfl⟩ := exists_parts built
  have defined := BodyBlueprint.build_defined bodyBuilt
  obtain rfl : body = .extract extraction := isExtract
  obtain ⟨pageViews, defined⟩ := defined
  obtain ⟨⟨wanted, multiplicity⟩, sole, className⟩ := Extraction.define_className defined
  exact ⟨wanted, rfl, ⟨multiplicity, sole⟩, className⟩

/-- A concept with the class of images or of PDFs is not open. -/
theorem Concept.Regular.closed {concept : Concept} (regular : concept.Regular)
    (className : concept.className = ClassName.image ∨ concept.className = ClassName.pdf) :
    concept.isOpen = false := by
  cases is : concept.native? with
  | none => rw [isOpen, is]; rfl
  | some native =>
      rw [isOpen_of_native? is]
      rw [regular.className_of_native? is] at className
      cases native <;> first | rfl | exact absurd className (by decide)

namespace Library

open Run

variable {library : Library} {pipe : Pipe} {memory : WorkingMemory} {params : Params}
variable {output : Option String} {state final : RunState}

/-- What may be sent to be split where a concept is wanted: the content of a known stuff that may
flow there. Unless the concept refines an open one, it consists of things of its class. -/
structure Document (library : Library) (wanted : Concept) (document : Content) : Prop where
  flows : ∃ stuff, library.Knows stuff ∧ stuff.concept.isCompatible wanted = true ∧
    stuff.content = document
  consists : ¬ wanted.RefinesOpen → document.ConsistsOf wanted.className

/-- If the job is to split a document, it comes from a pipe that is there for that. -/
def OwnsSplit (library : Library) : Job → Prop
  | .extract code document pageViews => ∃ pipe ∈ library.pipes, ∃ name wanted,
      pipe.code = code ∧ pipe.Splits ⟨name, pageViews⟩ wanted ∧ library.Document wanted document
  | _ => True

/-- What stands under the name of the declared input has passed the check. -/
theorem document_of_checked (bundles : library.FromBundles) (member : pipe ∈ library.pipes)
    (known : library.KnowsAll memory) (passed : checkInputs pipe memory params = .ok ())
    {extraction : Extraction} {wanted : Concept} {stuff : Stuff}
    (splits : pipe.Splits extraction wanted) (found : memory.get extraction.input = .ok stuff) :
    library.Document wanted stuff.content := by
  obtain ⟨multiplicity, sole⟩ := splits.sole
  have declared : (extraction.input, ⟨wanted, multiplicity⟩) ∈ pipe.signature.inputs.entries :=
    sole ▸ List.mem_singleton_self _
  have found := WorkingMemory.get_eq_ok.1 found
  obtain ⟨there, found', flows⟩ := checkInput_eq_ok.1 (checkInputs_eq_ok.1 passed _ declared)
  obtain rfl := Option.some.inj (found'.symm.trans found)
  have knows : library.Knows there := known.of_find? found
  have vocabulary := bundles.vocabulary_loaded
  have member : wanted ∈ library.vocabulary.concepts := bundles.speaksOf member (.input declared)
  have closed := (vocabulary.orderly.regular wanted member).closed splits.className
  rw [closed, Bool.false_or] at flows
  refine ⟨⟨there, knows, flows, rfl⟩, fun solid => Stuff.consistsOf_of_misfit? closed ?_⟩
  exact Stuff.misfit?_of_covers (vocabulary.covers knows.concept member solid (.inr flows))
    knows.fits

theorem sends_obtain {signature : Signature} {many : Bool} {job : Job} {allowed : Job → Prop}
    (allows : allowed job) :
    Sends allowed (fun _ => True) (library.obtain signature output many job) := by
  refine (Sends.generate allows).bind fun content _ => .idle ?_
  exact (Idle.require _ _).bind fun _ => .require _ _

/-- A dry run sends nothing, and a live one what it is about to send. -/
theorem sends_pretend_or_obtain {signature : Signature} {many : Bool} {job : Job}
    {allowed : Job → Prop} (allows : allowed job) :
    Sends allowed (fun _ => True)
      (if params.isDry then library.pretend signature params output
        else library.obtain signature output many job) := by
  split
  · exact .idle idle_pretend
  · exact sends_obtain allows

theorem sends_runCall {signature : Signature} {name : String} {allowed : Job → Prop} :
    Sends allowed (fun _ => True) (library.runCall signature name memory params output) := by
  apply (Sends.idle (.require _ _)).bind
  intro function _
  split
  · exact .idle idle_pretend
  · apply (Sends.idle (.require _ _)).bind
    intro inputs _
    exact Sends.call.bind fun _ _ => .idle (.require _ _)

theorem ownsSplit_modelJob {signature : Signature} {system : Option String} {demand : Demand}
    {words : String} {images : List Image} :
    library.OwnsSplit (modelJob signature system demand words images) := by
  unfold modelJob
  dsimp only
  split <;> exact trivial

theorem ownsSplit_work (bundles : library.FromBundles) : library.WorkSends library.OwnsSplit := by
  intro pipe member memory known params output work passed made
  unfold work? at made
  split at made <;> cases made
  · apply (Sends.idle (.require _ _)).bind
    intro words _
    apply (Sends.idle idle_attachments).bind
    intro images _
    exact sends_pretend_or_obtain ownsSplit_modelJob
  · apply (Sends.idle idle_imageWords).bind
    intro words _
    exact sends_pretend_or_obtain trivial
  · next extraction body =>
    obtain ⟨wanted, splits⟩ :=
      bundles.loaded.forall_pipes PipeBlueprint.build_splits pipe member extraction body
    have looked : Sends library.OwnsSplit (fun stuff => memory.get extraction.input = .ok stuff)
        (Run.require Cause.memory (memory.get extraction.input)) := .require fun _ found => found
    apply looked.bind
    intro stuff found
    split
    · exact .idle ((Idle.require _ _).bind fun _ => .require _ _)
    · refine sends_obtain ⟨pipe, member, extraction.input, wanted, rfl, splits, ?_⟩
      exact document_of_checked bundles member known passed splits found
  · exact sends_runCall
  · apply (Sends.idle (.require _ _)).bind
    intro rendered _
    exact .idle (.require _ _)

/-- In a library that is loaded from bundles, every run of a pipe on known stuffs, dry or live and
whatever comes of it, has documents split only by pipes that are there for that, at whatever depth.
The only input of such a pipe is declared to be an image or a PDF. What is sent is the content of a
known stuff that may flow there. Unless the declared concept refines an open one, it is of the
declared class, or it is a list of things of that class. -/
theorem run_documents (bundles : library.FromBundles) (member : pipe ∈ library.pipes)
    (known : library.KnowsAll memory) {outcome : Except RunError Output}
    (ran : library.run pipe memory params output state = (outcome, final)) :
    ∃ sent, final.jobs = state.jobs ++ sent ∧
      ∀ code document pageViews, Job.extract code document pageViews ∈ sent →
        ∃ pipe ∈ library.pipes, ∃ name wanted, pipe.code = code ∧
          pipe.Splits ⟨name, pageViews⟩ wanted ∧ library.Document wanted document := by
  obtain ⟨⟨sent, jobs, owned⟩, -⟩ :=
    trusts_run bundles (ownsSplit_work bundles) pipe member memory known params output state
  rw [ran] at jobs
  exact ⟨sent, jobs, fun code document pageViews split => owned _ split⟩

theorem archive_fromBundles : Sample.archive.FromBundles := by
  have accepted : (Library.initial Sample.archive.collaborators).load Sample.papers =
      .ok Sample.archive := rfl
  exact .load (.initial _) accepted

/-- An image that is filed is split on the way, as one that is no list. -/
theorem archive_documents : ∃ (outcome : Except RunError Output) (final : RunState),
    Sample.archive.FromBundles ∧ Sample.fileImage ∈ Sample.archive.pipes ∧
      Sample.archive.KnowsAll (.ofStuffs [Sample.sheet Sample.photo Sample.front]) ∧
      Sample.archive.run Sample.fileImage (.ofStuffs [Sample.sheet Sample.photo Sample.front])
        (Sample.live 2) none .initial = (outcome, final) ∧
      final.jobs = [.extract "split" Sample.front false] ∧
      ∃ pipe ∈ Sample.archive.pipes, ∃ name wanted, pipe.code = "split" ∧
        pipe.Splits ⟨name, false⟩ wanted ∧ Sample.archive.Document wanted Sample.front := by
  have member : Sample.fileImage ∈ Sample.archive.pipes := by
    exact List.mem_cons_of_mem _ (List.mem_cons_of_mem _ List.mem_cons_self)
  have known : Sample.archive.KnowsAll (.ofStuffs [Sample.sheet Sample.photo Sample.front]) :=
    List.forall_mem_singleton.2 ⟨archive_fromBundles.vocabulary_loaded.mem_ofNative .image, rfl⟩
  obtain ⟨outcome, final, ran, asked⟩ : ∃ outcome final,
      Sample.archive.run Sample.fileImage (.ofStuffs [Sample.sheet Sample.photo Sample.front])
        (Sample.live 2) none .initial = (outcome, final) ∧
      final.jobs = [.extract "split" Sample.front false] := ⟨_, _, rfl, rfl⟩
  obtain ⟨sent, jobs, owned⟩ := run_documents archive_fromBundles member known ran
  have all : sent = [.extract "split" Sample.front false] := jobs.symm.trans asked
  exact ⟨outcome, final, archive_fromBundles, member, known, ran, asked,
    owned _ _ _ (all ▸ List.mem_cons_self)⟩

/-- Two images are sent to be split as if they were one, and so is a note, which is no image at all,
where a scan is wanted. -/
theorem archive_splits_other : Sample.archive.FromBundles ∧
    Sample.splitImage ∈ Sample.archive.pipes ∧ Sample.splitScan ∈ Sample.archive.pipes ∧
    Stuff.make "sheet" Sample.photo (.list [Sample.front, Sample.back]) =
      .ok (Sample.sheet Sample.photo (.list [Sample.front, Sample.back])) ∧
    (Sample.archive.run Sample.splitImage
      (.ofStuffs [Sample.sheet Sample.photo (.list [Sample.front, Sample.back])])
      (Sample.live 1) none .initial).2.jobs =
      [.extract "split" (.list [Sample.front, Sample.back]) false] ∧
    ¬ (Content.list [Sample.front, Sample.back]).IsDocument ∧
    Stuff.make "sheet" Sample.note (.text "Buy milk") =
      .ok (Sample.sheet Sample.note (.text "Buy milk")) ∧
    (Sample.archive.run Sample.splitScan
      (.ofStuffs [Sample.sheet Sample.note (.text "Buy milk")]) (Sample.live 1) none
      .initial).2.jobs = [.extract "scan" (.text "Buy milk") false] ∧
    ¬ (Content.text "Buy milk").IsDocument := by
  refine ⟨archive_fromBundles, List.mem_cons_self, List.mem_cons_of_mem _ List.mem_cons_self, rfl,
    rfl, ?_, rfl, rfl, ?_⟩
  · rintro (image | pdf) <;> contradiction
  · rintro (image | pdf) <;> contradiction

end Library

end Conduit
