import Conduit.Proofs.Loading
import Conduit.Proofs.Sample
import Conduit.Proofs.Schema.ImageReach
import Conduit.Proofs.Vocabulary.Frame
import Conduit.Proofs.Run.Jobs

/-!
# The images of a prompt

A model is asked once at most in a run of a prompt, and it is shown the images of the inputs whose
concepts are a kind of image. Whether a concept is one is read off its class, where an image counts
wherever the fields lead to one. Which images there are is read off the content itself. An image, a
text with images, and a page have some, and so has a list of such things.

A record has none, even if its class has a field for an image. So an input of such a class is one to
be attached, and nothing is attached of it.
-/

namespace Conduit

/-- The images that go with a job. -/
def Job.images : Job → List Image
  | text job | object job => job.images
  | image .. | extract .. => []

namespace Sample

/-- A bundle whose receipts are records with a scan. A model is to read one, with a photo of the
goods at hand. -/
def receipts : Bundle where
  domain := "shop"
  definition := none
  concepts := .ofList [("Receipt", declared "A receipt" [("scan", .image)])]
  pipes := .ofList
    [("read", { definition := "Read a receipt"
                inputs := .ofList [("receipt", .brief "Receipt"), ("photo", .brief "Image")]
                output := "Text", count := none, many := none
                body := .prompt "Read the receipt" none })]

def receipt : Concept := ⟨"shop", "Receipt", "A receipt", "Receipt", none⟩

def read : Pipe where
  signature :=
    { domain := "shop", code := "read", definition := "Read a receipt"
      inputs := .ofList [("receipt", ⟨receipt, none⟩), ("photo", ⟨.ofNative .image, none⟩)]
      output := text, multiplicity := none }
  body := .prompt ⟨"Read the receipt", none⟩

/-- The bundle is loaded, and the model answers in one way. -/
def shop : Library where
  vocabulary := (Vocabulary.initial.load "shop" receipts.concepts).2
  pipes := [read]
  collaborators := { collaborators with generator := some fun _ _ => .ok (.text "Paid") }

def purchase : WorkingMemory := .ofStuffs
  [⟨"receipt", receipt,
      .structured "Receipt" (.object [("scan", .object [("url", .string "scan.png")])])⟩,
    ⟨"photo", .ofNative .image, .image ⟨"photo.png", none⟩⟩]

end Sample

namespace Library

open Run

variable {library : Library} {signature : Signature} {pipe : Pipe} {memory : WorkingMemory}
variable {params : Params} {output : Option String} {state final : RunState} {prompt : Prompt}
variable {input : String × Requirement} {inputs : List (String × Requirement)} {stuff : Stuff}

/-- The images that an input brings with it. -/
def brings (library : Library) (memory : WorkingMemory) (input : String × Requirement) :
    List Image :=
  match library.vocabulary.isImageLike input.2.concept, memory.find? input.1 with
  | .ok true, some stuff => attachedImages stuff.content
  | _, _ => []

theorem brings_of_found (imageLike : library.vocabulary.isImageLike input.2.concept = .ok true)
    (found : memory.find? input.1 = some stuff) :
    library.brings memory input = attachedImages stuff.content := by
  rw [brings, imageLike, found]

theorem brings_of_other (other : library.vocabulary.isImageLike input.2.concept = .ok false) :
    library.brings memory input = [] := by
  rw [brings, other]

/-- No image is seen in a record. -/
theorem brings_of_record {className : String} {value : Json}
    (found : memory.find? input.1 = some stuff)
    (record : stuff.content = .structured className value) : library.brings memory input = [] := by
  rw [brings, found]
  split
  · next imageLike same =>
    cases same
    rw [record]
    rfl
  · rfl

/-- It is settled whether the input is attached, and if it is, then there is something to attach. -/
def Settles (library : Library) (memory : WorkingMemory) (input : String × Requirement) : Prop :=
  library.vocabulary.isImageLike input.2.concept = .ok false ∨
    library.vocabulary.isImageLike input.2.concept = .ok true ∧
      ∃ stuff, memory.find? input.1 = some stuff

/-- The images to attach are those that the inputs bring with them, in the order of the inputs. -/
theorem attachments_eq_ok {images : List Image}
    (ran : library.attachments memory inputs state = (.ok images, final)) :
    (∀ input ∈ inputs, library.Settles memory input) ∧
      images = inputs.flatMap (library.brings memory) := by
  induction inputs generalizing images state final with
  | nil =>
      cases ran
      exact ⟨List.forall_mem_nil _, rfl⟩
  | cons input inputs ih =>
      obtain ⟨name, requirement⟩ := input
      have rest : ∀ here start, (do
          let others ← library.attachments memory inputs
          return here ++ others : Run (List Image)) start = (.ok images, final) →
          (∀ input ∈ inputs, library.Settles memory input) ∧
            images = here ++ inputs.flatMap (library.brings memory) := by
        intro here start ran
        obtain ⟨others, _, ran, made⟩ := bind_eq_ok.1 ran
        obtain ⟨settles, rfl⟩ := ih ran
        cases made
        exact ⟨settles, rfl⟩
      obtain ⟨imageLike, _, settled, ran⟩ := bind_eq_ok.1 ran
      have settled := (require_eq_ok.1 settled).1
      rw [List.forall_mem_cons, List.flatMap_cons]
      cases imageLike with
      | true =>
          obtain ⟨stuff, _, found, ran⟩ := bind_eq_ok.1 ran
          have found := WorkingMemory.get_eq_ok.1 (require_eq_ok.1 found).1
          obtain ⟨settles, same⟩ := rest _ _ ran
          rw [brings_of_found settled found]
          exact ⟨⟨.inr ⟨settled, stuff, found⟩, settles⟩, same⟩
      | false =>
          obtain ⟨settles, same⟩ := rest _ _ ran
          rw [brings_of_other settled]
          exact ⟨⟨.inl settled, settles⟩, same⟩

/-- The job shows the images of the inputs, for each of which it is settled what it brings. -/
def ShowsInputs (library : Library) (memory : WorkingMemory)
    (inputs : List (String × Requirement)) (job : Job) : Prop :=
  (∀ input ∈ inputs, library.Settles memory input) ∧
    job.images = inputs.flatMap (library.brings memory)

theorem modelJob_images {system : Option String} {demand : Demand} {words : String}
    {images : List Image} :
    (modelJob signature system demand words images).images = images := by
  dsimp only [modelJob]
  split <;> rfl

theorem asksOnce_runPrompt (live : params.isDry = false) :
    AsksOnce (library.ShowsInputs memory signature.inputs.entries)
      (library.runPrompt signature prompt memory params output) := by
  refine .idle_bind (.require _ _) fun words _ _ => ?_
  refine .idle_bind idle_attachments fun images _ attached => ?_
  obtain ⟨settles, same⟩ := attachments_eq_ok attached
  rw [if_neg (by rw [live]; exact Bool.false_ne_true)]
  intro state
  refine (asksOnce_obtain state).imp id ?_
  rintro ⟨job, rfl, asked⟩
  exact ⟨_, ⟨settles, modelJob_images.trans same⟩, asked⟩

theorem asksOnce_run (body : pipe.body = .prompt prompt) (live : params.isDry = false) :
    AsksOnce (library.ShowsInputs memory pipe.signature.inputs.entries)
      (library.run pipe memory params output) := by
  have known : library.work? pipe memory params output =
      some (library.runPrompt pipe.signature prompt memory params output) := by
    rw [work?, body]
  exact asksOnce_run_of_work known (asksOnce_runPrompt live)

/-- Where the fields of a class lead to an image, things of the concept are attached, if that can be
settled. -/
theorem Settles.of_reachesImage (settles : library.Settles memory input)
    (closed : input.2.concept.isOpen = false)
    (reaches : library.vocabulary.registry.ReachesImage input.2.concept.className) :
    ∃ stuff, memory.find? input.1 = some stuff ∧
      library.brings memory input = attachedImages stuff.content := by
  rcases settles with other | ⟨imageLike, stuff, found⟩
  · rw [Vocabulary.isImageLike, closed] at other
    rcases library.vocabulary.registry.isImageLike_cases input.2.concept.className with
      ⟨found, -⟩ | ⟨-, without, -⟩ | ⟨_, circles, -⟩ | ⟨_, unknown, -⟩
    · cases found.symm.trans other
    · exact absurd reaches without
    · cases circles.symm.trans other
    · cases unknown.symm.trans other
  · exact ⟨stuff, found, brings_of_found imageLike found⟩

/-- A live run of a prompt that asks the model at all, whatever comes of it, asks just once, and
shows the images that the inputs bring with them, in the order of the inputs. An input from whose
class an image can be reached is attached, with all images that are seen in its content. In a record
none is seen, whatever its fields hold. -/
theorem run_attaches {outcome : Except RunError Output} (body : pipe.body = .prompt prompt)
    (live : params.isDry = false)
    (ran : library.run pipe memory params output state = (outcome, final))
    (asked : final.jobs ≠ state.jobs) :
    ∃ job, final.jobs = state.jobs ++ [job] ∧
      job.images = pipe.signature.inputs.entries.flatMap (library.brings memory) ∧
      ∀ input ∈ pipe.signature.inputs.entries, input.2.concept.isOpen = false →
        library.vocabulary.registry.ReachesImage input.2.concept.className →
        ∃ stuff, memory.find? input.1 = some stuff ∧
          library.brings memory input = attachedImages stuff.content ∧
          ∀ className value, stuff.content = .structured className value →
            library.brings memory input = [] := by
  have once : AsksOnce (library.ShowsInputs memory pipe.signature.inputs.entries)
      (library.run pipe memory params output) := asksOnce_run body live
  have shown := once state
  rw [ran] at shown
  obtain ⟨job, ⟨settles, images⟩, jobs⟩ := shown.resolve_left asked
  refine ⟨job, jobs, images, fun input member closed reaches => ?_⟩
  obtain ⟨stuff, found, same⟩ := (settles input member).of_reachesImage closed reaches
  exact ⟨stuff, found, same, fun _ _ => brings_of_record found⟩

/-- Of what the customer has brought, the photo is shown. -/
theorem purchase_shows : (Sample.shop.run Sample.read Sample.purchase (Sample.live 1) none
    .initial).2.jobs.map Job.images = [[⟨"photo.png", none⟩]] := by decide +kernel

/-- The receipt of the shop is to be attached, and brings nothing with it. -/
theorem receipt_attaches :
    ∃ final job,
      (Sample.shop.run Sample.read Sample.purchase (Sample.live 1) none .initial).2 = final ∧
      final.jobs = [job] ∧
      job.images = Sample.read.signature.inputs.entries.flatMap
        (Sample.shop.brings Sample.purchase) ∧
      Sample.shop.brings Sample.purchase ("receipt", ⟨Sample.receipt, none⟩) = [] := by
  obtain ⟨outcome, final, ran⟩ : ∃ outcome final,
      Sample.shop.run Sample.read Sample.purchase (Sample.live 1) none .initial =
        (outcome, final) := ⟨_, _, rfl⟩
  have asked : final.jobs ≠ RunState.initial.jobs := by
    intro none
    have shown := purchase_shows
    rw [ran, none] at shown
    cases shown
  obtain ⟨job, jobs, images, records⟩ := run_attaches rfl rfl ran asked
  have scans : Sample.shop.vocabulary.registry.fields? "Receipt" =
      some (.ofList [("scan", .image)]) := rfl
  have imaged : Sample.shop.vocabulary.registry.Imaged "Receipt" :=
    .inr ⟨_, scans, .image, List.mem_singleton_self _, rfl⟩
  obtain ⟨stuff, found, -, none⟩ := records ("receipt", ⟨Sample.receipt, none⟩)
    List.mem_cons_self rfl ⟨"Receipt", .refl, imaged⟩
  cases found
  exact ⟨final, job, congrArg Prod.snd ran, jobs, images, none _ _ rfl⟩

/-- The class of receipts has a field for a scan, and the receipt at hand has one. The model is
asked to read it, and is shown the photo alone. -/
theorem receipt_unseen :
    ∃ (final : RunState) (job : Job) (stuff : Stuff) (fields : ClassFields),
      Sample.shop.Loaded ∧ Sample.shop.find? "read" = some Sample.read ∧
      Sample.read.body = .prompt ⟨"Read the receipt", none⟩ ∧
      ("receipt", ⟨Sample.receipt, none⟩) ∈ Sample.read.signature.inputs.entries ∧
      (Sample.receipts.concepts.get? Sample.receipt.code).bind ConceptBlueprint.inlineFields? =
        some fields ∧
      fields.get? "scan" = some .image ∧
      Sample.purchase.find? "receipt" = some stuff ∧
      stuff.content = .structured Sample.receipt.className
        (.object [("scan", .object [("url", .string "scan.png")])]) ∧
      (Sample.shop.run Sample.read Sample.purchase (Sample.live 1) none .initial).2 = final ∧
      final.jobs = [job] ∧ ∀ image ∈ job.images, image.url ≠ "scan.png" := by
  have accepted : (Library.initial Sample.shop.collaborators).load Sample.receipts =
      .ok Sample.shop := rfl
  obtain ⟨job, jobs, images⟩ := List.map_eq_singleton_iff.1 purchase_shows
  refine ⟨_, job, _, _, .load (.initial _) accepted, rfl, rfl, List.mem_cons_self, rfl, rfl, rfl,
    rfl, rfl, jobs, ?_⟩
  rw [images, List.forall_mem_singleton]
  decide

end Library

end Conduit
