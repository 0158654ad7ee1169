import Colloquy.Proofs.Json.Forms
import Colloquy.Proofs.Provider.Carrying

/-!
# The events of OpenAI

An event is an object with one list of choices, each an object with one delta, which may hold a text (`IsChunk`). Whatever else stands
in these objects, and however they are laid out, the event is read as the texts of its choices (`follows_chunk`), of which the first
counts. Events without a text there are idle; the plainest event with a text is `textPayload`. A payload need not hold a value to be
understood, as what is passed over is not looked at closely: what any payload says is settled by its form (`Conveys`, `conveys_iff`).
-/

namespace Colloquy.OpenAi

open Json

/-! ## What an event says -/

/-- A choice, by the text of its delta. -/
inductive IsChoice : Json → Option String → Prop where
  | mk {fs : List (String × Json)} {d : Json} {t : Option String} (h : fs.filter (·.1 = "delta") = [("delta", d)])
      (hd : HoldsText "content" d t) : IsChoice (.obj fs) t

/-- An event, by the texts of its choices. -/
inductive IsChunk : Json → List (Option String) → Prop where
  | mk {fs : List (String × Json)} {cs : List Json} {ts : List (Option String)}
      (h : fs.filter (·.1 = "choices") = [("choices", .arr cs)]) (hcs : List.Forall₂ IsChoice cs ts) : IsChunk (.obj fs) ts

/-- A payload is an event that carries a text or none, at any depth of what else stands in it. -/
def IsPayload (payload : List Char) (t : Option String) : Prop :=
  ∃ depth v ts, Reader.all (value depth) payload = .ok v ∧ IsChunk v ts ∧ ts.head?.join = t

/-- The part of a choice that may have a text: it has at most one `content`, a string or `null`. -/
def deltaForm : Form (Option String) := fun text t rest =>
  ∃ o, Form.Sole "content" (Form.OrNull Form.string) text o rest ∧ o.join = t

/-- A choice: it has one `delta`. -/
def choiceForm : Form (Option String) := fun text t rest =>
  Form.Sole "delta" deltaForm text (some t) rest

/-- An event: it has one `choices`, an array. -/
def chunkForm : Form (List (Option String)) := fun text ts rest =>
  Form.Sole "choices" (Form.array choiceForm) text (some ts) rest

/-- What a payload says, if it is an event: the text of its first choice, if there is one and it has a text. -/
def Conveys (payload : List Char) (said : Except Error (Option String)) : Prop :=
  ∃ ts rest, chunkForm payload ts rest ∧ skipSpaces rest = [] ∧ said = .ok ts.head?.join

/-- The payload of an event with a text and nothing else. -/
def textPayload (t : String) : List Char :=
  "\x7b\"choices\":[\x7b\"delta\":\x7b\"content\":".toList ++ printString t.toList ++ "\x7d\x7d]\x7d".toList

/-- How events are written. -/
def wire : Wire where
  isText t payload := payload = textPayload t
  isIdle payload := IsPayload payload none

/-! ## What is read -/

theorem follows_delta (inner : Nat) : Follows (delta.read (inner + 1)) (HoldsText "content") := by
  intro depth text rest v t hv ht
  refine delta.follows_read inner hv ?_
  have hreader : Follows (optional string) _ := follows_string.optional nofun
  cases ht with
  | absent h => exact ⟨_, _, rfl, Record.gathers_slot_absent rfl h, rfl⟩
  | null h => exact ⟨_, _, rfl, Record.gathers_slot rfl hreader rfl (.inl ⟨rfl, rfl⟩) h, rfl⟩
  | text h => exact ⟨_, _, rfl, Record.gathers_slot rfl hreader rfl (.inr ⟨_, rfl, rfl⟩) h, rfl⟩

theorem follows_choice (inner : Nat) : Follows (choice.read (inner + 2)) IsChoice := by
  rintro depth text rest _ t hv ⟨h, hd⟩
  exact choice.follows_read (inner + 1) hv ⟨_, _, rfl, Record.gathers_slot rfl (follows_delta inner) rfl hd h, rfl⟩

theorem follows_chunk (inner : Nat) : Follows (chunk.read (inner + 4)) IsChunk := by
  rintro depth text rest _ ts hv ⟨h, hcs⟩
  exact chunk.follows_read (inner + 3) hv
    ⟨_, _, rfl, Record.gathers_slot rfl (Follows.array (follows_choice inner)) rfl ⟨_, rfl, hcs⟩ h, rfl⟩

/-- Whatever is an event is understood as one. -/
theorem IsPayload.tells {payload : List Char} {t : Option String} (h : IsPayload payload t) (endpoint : Endpoint) (request : ChatRequest) :
    Tells (dialect endpoint request).reader (dialect endpoint request).text payload t := by
  obtain ⟨depth, v, ts, hv, hts, rfl⟩ := h
  have hread : Reader.all (chunk.read depthLimit) payload = .ok ts := Follows.all (follows_chunk 123) hv hts
  refine ⟨?_, ts, ?_, rfl⟩
  · cases hts
    exact ne_done_of_object hv
  · simp only [dialect, reader]
    rw [hread]
    rfl

theorem reads_delta (inner : Nat) : Reads (delta.read (inner + 1)) deltaForm := by
  have hcontent : Reads (optional string) (Form.OrNull Form.string) := by
    refine reads_string.orNull ?_
    rintro start rest s ⟨later, htext, -⟩
    exact absurd (List.cons.inj htext).1 (by decide)
  have hfields : delta.fields =
      [.slot "content" (·.content) (fun s v => { s with content := some v }) fun _ => optional string] := rfl
  have hfinish (o : Option (Option String)) :
      delta.finish (o.elim delta.start fun t => { content := some t }) = .ok o.join := by cases o <;> rfl
  refine (Reads.record hfields (fun _ _ => rfl) rfl hcontent).congr ?_
  simp only [hfinish, Except.ok.injEq, deltaForm, implies_true]

theorem reads_choice (inner : Nat) : Reads (choice.read (inner + 2)) choiceForm := by
  have hfields : choice.fields = [.slot "delta" (·.delta) (fun s v => { s with delta := some v }) delta.read] := rfl
  exact Reads.record_need hfields (fun _ _ => rfl) rfl (fun _ => rfl) (reads_delta inner)

theorem reads_chunk (inner : Nat) : Reads (chunk.read (inner + 4)) chunkForm := by
  have hfields : chunk.fields =
      [.slot "choices" (·.choices) (fun s v => { s with choices := some v }) (array choice.read)] := rfl
  exact Reads.record_need hfields (fun _ _ => rfl) rfl (fun _ => rfl) (reads_choice inner).array

/-- Whatever says something is understood, and nothing else is. -/
theorem conveys_iff {payload : List Char} {said : Except Error (Option String)} :
    Conveys payload said ↔ ∃ choices, reader payload = .ok choices ∧ .ok choices.head?.join = said := by
  have hread {choices : List (Option String)} :
      reader payload = .ok choices ↔ Reader.all (chunk.read depthLimit) payload = .ok choices := mapError_eq_ok
  constructor
  · rintro ⟨ts, rest, hchunk, hend, rfl⟩
    exact ⟨ts, hread.mpr (all_eq_ok.mpr ⟨rest, (reads_chunk 123).iff.mpr hchunk, hend⟩), rfl⟩
  · rintro ⟨ts, hts, rfl⟩
    obtain ⟨rest, hchunk, hend⟩ := all_eq_ok.mp (hread.mp hts)
    exact ⟨ts, rest, (reads_chunk 123).iff.mp hchunk, hend, rfl⟩

/-- The event with a text and nothing else, as a value. -/
def textEvent (t : String) : Json :=
  .obj [("choices", .arr [.obj [("delta", .obj [("content", .str t)])]])]

theorem textPayload_eq (t : String) : textPayload t = print (textEvent t) := by
  have hfront : "\x7b\"choices\":[\x7b\"delta\":\x7b\"content\":".toList = '{' :: (printString "choices".toList ++
      ':' :: '[' :: '{' :: (printString "delta".toList ++ ':' :: '{' :: (printString "content".toList ++ [':']))) := by
    decide +kernel
  have hback : "\x7d\x7d]\x7d".toList = ['}', '}', ']', '}'] := rfl
  unfold textPayload
  simp only [hfront, hback, textEvent, print, printItems, printFields, List.append_assoc, List.cons_append, List.nil_append]

theorem exact_textEvent (t : String) : Exact 4 (textEvent t) := by
  have hdelta : Exact 1 (.obj [("content", .str t)]) := .obj (by simpa using Exact.str t)
  have hchoice : Exact 2 (.obj [("delta", .obj [("content", .str t)])]) := .obj (by simpa using hdelta)
  exact .obj (by simpa using Exact.arr (by simpa using hchoice))

theorem isPayload_textPayload (t : String) : IsPayload (textPayload t) (some t) := by
  rw [textPayload_eq]
  exact ⟨4, _, [some t], all_print (exact_textEvent t), .mk rfl (.cons (.mk rfl (.text rfl)) .nil), rfl⟩

/-- The events of the vendor are understood by its provider. -/
theorem wire_isUnderstood (endpoint : Endpoint) (request : ChatRequest) :
    wire.IsUnderstood (dialect endpoint request).reader (dialect endpoint request).text where
  reads := by
    rintro t _ rfl
    exact (isPayload_textPayload t).tells endpoint request
  plain := by
    rintro t _ rfl
    rw [textPayload_eq]
    exact isPlain_print (exact_textEvent t)
  passes h := IsPayload.tells h endpoint request

end Colloquy.OpenAi
