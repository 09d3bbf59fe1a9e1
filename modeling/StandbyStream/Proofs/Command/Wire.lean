import StandbyStream.Command.Request
import StandbyStream.Proofs.Json.Writing

/-!
# Commands on the wire

Whoever sends a request and whoever reads its message agree on it. The document of a request is
loaded again from its message (`load?_toMessage`), each wish is found under its name
(`get?_sent`), and with the encoding read by the receiver the command is the one that was asked for
(`parse_toMessage`).
-/

namespace StandbyStream.Command

open Json (Document)

namespace Request

variable {α : Type}

/-! ## Fields of a message -/

theorem lookup_field_self (name : String) (form : α → Document) (value : Option α) :
    (field name form value).lookup name = value.map form := by
  cases value <;> simp [field]

theorem lookup_field_of_ne {name other : String} (h : other ≠ name) (form : α → Document)
    (value : Option α) : (field name form value).lookup other = none := by
  cases value with
  | none => rfl
  | some value => simp [field, List.lookup_cons, beq_false_of_ne h]

theorem reverse_field (name : String) (form : α → Document) (value : Option α) :
    (field name form value).reverse = field name form value := by
  cases value <;> rfl

theorem forall_mem_field {name : String} {form : α → Document} {value : Option α}
    {p : Document → Prop} (h : ∀ value, p (form value)) :
    ∀ entry ∈ field name form value, p entry.2 := by
  intro entry hentry
  cases value with
  | none => cases hentry
  | some value =>
    rw [field, List.mem_singleton] at hentry
    subst hentry
    exact h value

/-- The fields of the document of a request. -/
def fields : Request → List (String × Document)
  | .start wishes =>
    field "Address" .ofText wishes.address ++ field "Bitrate" word wishes.bitrate ++
      field "Command" .ofText (some "start") ++ field "Encoding" .ofText wishes.encoding ++
      field "Fps" word wishes.fps ++ field "Height" word wishes.height ++
      field "Width" word wishes.width
  | .stop => field "Command" .ofText (some "stop")

theorem toDocument_eq (request : Request) : request.toDocument = .ofFields request.fields := by
  cases request <;> rfl

/-- What holds of every text and every number holds of every field that is sent. -/
theorem forall_mem_fields {p : Document → Prop} (htext : ∀ s, p (.ofText s))
    (hword : ∀ n, p (word n)) (request : Request) : ∀ entry ∈ request.fields, p entry.2 := by
  cases request with
  | start wishes =>
    simp only [fields, List.forall_mem_append]
    have text (name : String) (value : Option String) : ∀ entry ∈ field name _ value, p entry.2 :=
      forall_mem_field htext
    have number (name : String) (value : Option UInt32) : ∀ entry ∈ field name _ value, p entry.2 :=
      forall_mem_field hword
    exact ⟨⟨⟨⟨⟨⟨text _ _, number _ _⟩, text _ _⟩, text _ _⟩, number _ _⟩, number _ _⟩, number _ _⟩
  | stop =>
    rw [fields]
    exact forall_mem_field htext

/-! ## Messages -/

theorem toNat_le_maxNatural (n : UInt32) : n.toNat ≤ Json.Numeral.maxNatural := by
  have hlt := n.toNat_lt
  have hbound : 2 ^ 32 ≤ Json.Numeral.maxNatural := by decide
  omega

theorem load?_toMessage (request : Request) :
    Document.load? request.toMessage = some (.ofFields request.fields) := by
  rw [toMessage, toDocument_eq]
  apply Document.load?_ofFields
  exact forall_mem_fields Document.Scalar.ofText
    (fun n => Document.Scalar.ofNat (toNat_le_maxNatural n)) request

theorem word?_word (n : UInt32) : Datum.word? (word n) = some n := by
  rw [Datum.word?, word, Document.natural?_ofNat (toNat_le_maxNatural n), Option.bind_some,
    if_pos n.toNat_lt, UInt32.ofNat_toNat]

end Request

namespace Fields

open Request

/-- What a start carries is found under its names, whatever else is sent. -/
theorem get?_sent (wishes : Wishes) :
    let sent : Fields := ⟨(Request.start wishes).fields⟩
    sent.get? "Command" = some (.ofText "start") ∧
    sent.get? "Encoding" = wishes.encoding.map .ofText ∧
    sent.get? "Width" = wishes.width.map word ∧ sent.get? "Height" = wishes.height.map word ∧
    sent.get? "Fps" = wishes.fps.map word ∧ sent.get? "Bitrate" = wishes.bitrate.map word ∧
    sent.get? "Address" = wishes.address.map .ofText ∧ sent.get? "StreamAddress" = none := by
  simp only [get?, Request.fields, List.reverse_append, reverse_field, List.lookup_append]
  simp (disch := decide) [lookup_field_self, lookup_field_of_ne]

theorem text?_bind_ofText (text : Option String) :
    (text.map Document.ofText).bind Document.text? = text := by
  cases text with
  | none => rfl
  | some s => exact Document.text?_ofText s

theorem word?_bind_word (n : Option UInt32) : (n.map word).bind Datum.word? = n := by
  cases n with
  | none => rfl
  | some n => exact word?_word n

theorem address?_sent (wishes : Wishes) :
    address? ⟨(Request.start wishes).fields⟩ = wishes.address := by
  obtain ⟨-, -, -, -, -, -, haddress, halias⟩ := get?_sent wishes
  rw [address?, haddress, text?, halias]
  cases wishes.address with
  | none => rfl
  | some s => exact Document.text?_ofText s

theorem encoding?_sent (wishes : Wishes) :
    encoding? ⟨(Request.start wishes).fields⟩ = wishes.encoding.mapM Encoding.parse := by
  obtain ⟨-, hencoding, -⟩ := get?_sent wishes
  rw [encoding?, text?, hencoding, text?_bind_ofText]
  cases wishes.encoding with
  | none => rfl
  | some name =>
    simp only [Option.mapM_some]
    generalize Encoding.parse name = outcome
    cases outcome <;> rfl

/-- The overrides of a start are its wishes, with the encoding read. -/
theorem overrides_sent (wishes : Wishes) :
    overrides ⟨(Request.start wishes).fields⟩ =
      (wishes.encoding.mapM Encoding.parse).map fun encoding =>
        ⟨encoding, wishes.width, wishes.height, wishes.fps, wishes.bitrate, wishes.address⟩ := by
  obtain ⟨-, -, hwidth, hheight, hfps, hbitrate, -, -⟩ := get?_sent wishes
  rw [overrides, encoding?_sent, address?_sent]
  simp only [word?, hwidth, hheight, hfps, hbitrate, word?_bind_word]

end Fields

/-! ## Reading what was sent -/

theorem fold_start : Text.fold "start" = "start" := by
  decide +kernel

theorem fold_stop : Text.fold "stop" = "stop" := by
  decide +kernel

theorem parse_eq_ofFields (request : Request) :
    parse request.toMessage = ofFields ⟨request.fields⟩ := by
  simp only [parse, Request.load?_toMessage, Document.fields?_ofFields]

theorem parse_stop : parse Request.stop.toMessage = .ok .stop := by
  have hverb : Fields.text? ⟨Request.stop.fields⟩ "Command" = some "stop" :=
    Document.text?_ofText "stop"
  rw [parse_eq_ofFields, ofFields, hverb]
  simp [fold_stop]

theorem parse_start (wishes : Wishes) :
    parse (Request.start wishes).toMessage =
      match wishes.encoding.mapM Encoding.parse with
      | .ok encoding =>
        .ok (.start ⟨encoding, wishes.width, wishes.height, wishes.fps, wishes.bitrate,
          wishes.address⟩)
      | .error cause => .error (.encoding cause) := by
  have hverb : Fields.text? ⟨(Request.start wishes).fields⟩ "Command" = some "start" := by
    rw [Fields.text?, (Fields.get?_sent wishes).1]
    exact Document.text?_ofText "start"
  rw [parse_eq_ofFields, ofFields, hverb]
  simp only [fold_start, if_true, Fields.overrides_sent]
  cases wishes.encoding.mapM Encoding.parse <;> rfl

theorem mapM_parse_eq_error {encoding : Option String} {cause : Encoding.Unknown} :
    encoding.mapM Encoding.parse = .error cause ↔
      ∃ name, encoding = some name ∧ Encoding.parse name = .error cause := by
  cases encoding with
  | none => simp [pure, Except.pure]
  | some name =>
    simp only [Option.mapM_some, Option.some.injEq, exists_eq_left']
    cases hname : Encoding.parse name <;> simp [Functor.map, Except.map]

/-- The receiver reads the command that the sender was asked for: a stop as a stop, and a start with
its numbers and its address, each where it was given, whatever texts there are. The encoding is sent
as it was given and read by the receiver, who refuses a message exactly if it is given and
unknown. -/
theorem parse_toMessage (request : Request) :
    (parse request.toMessage =
      match request with
      | .stop => .ok .stop
      | .start wishes =>
        match wishes.encoding.mapM Encoding.parse with
        | .ok encoding =>
          .ok (.start ⟨encoding, wishes.width, wishes.height, wishes.fps, wishes.bitrate,
            wishes.address⟩)
        | .error cause => .error (.encoding cause)) ∧
    ((∃ fault, parse request.toMessage = .error fault) ↔
      ∃ wishes name cause, request = .start wishes ∧ wishes.encoding = some name ∧
        Encoding.parse name = .error cause) := by
  cases request with
  | stop => simp [parse_stop]
  | start wishes =>
    have hparse := parse_start wishes
    refine ⟨hparse, ?_⟩
    rw [hparse]
    constructor
    · intro h
      obtain ⟨fault, hfault⟩ := h
      cases hencoding : wishes.encoding.mapM Encoding.parse with
      | ok encoding =>
        rw [hencoding] at hfault
        cases hfault
      | error cause =>
        obtain ⟨name, hname, hcause⟩ := mapM_parse_eq_error.1 hencoding
        exact ⟨wishes, name, cause, rfl, hname, hcause⟩
    · rintro ⟨_, name, cause, ⟨rfl⟩, hname, hcause⟩
      rw [mapM_parse_eq_error.2 ⟨name, hname, hcause⟩]
      exact ⟨_, rfl⟩

end StandbyStream.Command
