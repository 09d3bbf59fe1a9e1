import StandbyStream.Proofs.Command.Wire
import StandbyStream.Proofs.Station.Acceptance

/-!
# Numbers that a start carries

A start may carry the sides of the picture, the frame rate and the bit rate (`Quantity`) as natural
numbers of any size. Those below `2 ^ 32` are taken or refused: a start that is accepted has each of
them in its setting, and one of them that is not permitted is enough for a refusal. Larger ones go
the way of numbers that are not natural: the command is the one without them
(`Station.quantities_of_start`).
-/

namespace StandbyStream

/-- A setting that is a number. -/
inductive Quantity where
  | width
  | height
  | fps
  | bitrate
  deriving DecidableEq, Repr

namespace Quantity

/-- The name of its field in a command. -/
def field : Quantity → String
  | .width => "Width"
  | .height => "Height"
  | .fps => "Fps"
  | .bitrate => "Bitrate"

/-- The setting. -/
def setting (p : Parameters) : Quantity → UInt32
  | .width => p.width
  | .height => p.height
  | .fps => p.fps
  | .bitrate => p.bitrate

/-- What replaces the setting. -/
def wish (o : Overrides) : Quantity → Option UInt32
  | .width => o.width
  | .height => o.height
  | .fps => o.fps
  | .bitrate => o.bitrate

/-- The numbers that the setting may be. -/
def Permits : Quantity → Nat → Prop
  | .width, n | .height, n => 1 ≤ n ∧ n ≤ 4096 ∧ n % 2 = 0
  | .fps, n => 1 ≤ n ∧ n ≤ 120
  | .bitrate, n => 1 ≤ n ∧ n ≤ 100000000

instance : (q : Quantity) → (n : Nat) → Decidable (q.Permits n)
  | .width, _ | .height, _ => inferInstanceAs (Decidable (_ ∧ _ ∧ _))
  | .fps, _ | .bitrate, _ => inferInstanceAs (Decidable (_ ∧ _))

theorem setting_override (p : Parameters) (o : Overrides) (q : Quantity) :
    q.setting (p.override o) = (q.wish o).getD (q.setting p) := by
  cases q <;> rfl

/-- Parameters in bounds are permitted, each of them. -/
theorem permits_of_inBounds {p : Parameters} (h : p.InBounds) (q : Quantity) :
    q.Permits (q.setting p).toNat := by
  have positive {n : UInt32} (hn : n ≠ 0) : 1 ≤ n.toNat :=
    Nat.one_le_iff_ne_zero.2 fun h0 => hn (UInt32.toNat_inj.1 h0)
  have side {n : UInt32} (hn : n ≠ 0 ∧ n ≤ Parameters.maxSide ∧ n % 2 = 0) :
      1 ≤ n.toNat ∧ n.toNat ≤ 4096 ∧ n.toNat % 2 = 0 :=
    ⟨positive hn.1, UInt32.le_iff_toNat_le.1 hn.2.1, congrArg UInt32.toNat hn.2.2⟩
  cases q with
  | width => exact side h.width
  | height => exact side h.height
  | fps => exact ⟨positive h.fps.1, UInt32.le_iff_toNat_le.1 h.fps.2⟩
  | bitrate => exact ⟨positive h.bitrate.1, UInt32.le_iff_toNat_le.1 h.bitrate.2⟩

end Quantity

/-! ## Fields -/

/-- The numeral is a natural number, of whatever size, written in digits alone. -/
structure Json.Numeral.Denotes (numeral : Numeral) (n : Nat) : Prop where
  positive : numeral.negative = false
  integral : numeral.fraction = []
  plain : numeral.exponent = none
  value : ofDigits numeral.whole = n

theorem Json.Numeral.Denotes.ofNat (n : Nat) : (Numeral.ofNat n).Denotes n :=
  ⟨rfl, rfl, rfl, Nat.ofDigitChars_ten_toDigits⟩

namespace Command.Fields

/-- The fields carry a natural number for a quantity. -/
def Carries (fields : Fields) (q : Quantity) (n : Nat) : Prop :=
  ∃ numeral : Json.Numeral, fields.get? q.field = some (.number numeral) ∧ numeral.Denotes n

/-- The fields but those of the name. -/
def without (fields : Fields) (name : String) : Fields :=
  ⟨fields.all.filter fun field => field.1 != name⟩

variable {fields : Fields} {q : Quantity} {n : Nat}

/-- Natural numbers of 32 bits are read, larger ones are not. -/
theorem word?_of_carries (h : fields.Carries q n) :
    fields.word? q.field = if n < 2 ^ 32 then some (UInt32.ofNat n) else none := by
  obtain ⟨numeral, hget, hnumeral⟩ := h
  have hnatural : Datum.natural? (.number numeral : Json.Document) =
      if n ≤ Json.Numeral.maxNatural then some n else none := by
    change numeral.natural? = _
    simp [Json.Numeral.natural?, hnumeral.positive, hnumeral.integral, hnumeral.plain,
      hnumeral.value]
  rw [word?, hget, Option.bind_some, Datum.word?, hnatural]
  by_cases hn : n ≤ Json.Numeral.maxNatural
  · rw [if_pos hn, Option.bind_some]
    rfl
  · have hlarge : ¬ n < 2 ^ 32 := by
      have hmax : 2 ^ 32 ≤ Json.Numeral.maxNatural := by decide
      omega
    rw [if_neg hn, if_neg hlarge, Option.bind_none]

theorem wish_of_overrides {o : Overrides} (h : fields.overrides = .ok o) (q : Quantity) :
    q.wish o = fields.word? q.field := by
  rw [overrides] at h
  cases he : fields.encoding? with
  | error cause =>
      rw [he] at h
      cases h
  | ok encoding =>
      rw [he] at h
      cases h
      cases q <;> rfl

/-- A number that is carried replaces the setting if it is read. -/
theorem setting_of_carries {o : Overrides} (ho : fields.overrides = .ok o)
    (h : fields.Carries q n) (p : Parameters) :
    q.setting (p.override o) = if n < 2 ^ 32 then UInt32.ofNat n else q.setting p := by
  rw [q.setting_override, wish_of_overrides ho, word?_of_carries h]
  split <;> rfl

theorem get?_without (fields : Fields) (name other : String) :
    (fields.without name).get? other = if other = name then none else fields.get? other := by
  rw [get?, get?, without, ← List.filter_reverse]
  induction fields.all.reverse with
  | nil => exact (ite_self none).symm
  | cons entry rest ih =>
      by_cases hne : entry.1 = name
      · -- the entry goes, and is not the one that is looked for if that is another
        rw [List.filter_cons_of_neg (by simp [hne]), ih, List.lookup_cons]
        split
        · rfl
        · next hother => rw [beq_false_of_ne (hne ▸ hother)]
      · rw [List.filter_cons_of_pos (by simp [hne]), List.lookup_cons, List.lookup_cons, ih]
        by_cases ho : other = entry.1
        · have hn : ¬ other = name := fun h => hne (ho.symm.trans h)
          rw [if_neg hn, if_neg hn]
        · rw [beq_false_of_ne ho]

theorem get?_without_of_ne {name other : String} (h : other ≠ name) (fields : Fields) :
    (fields.without name).get? other = fields.get? other := by
  rw [get?_without, if_neg h]

theorem text?_without_of_ne {name other : String} (h : other ≠ name) (fields : Fields) :
    (fields.without name).text? other = fields.text? other := by
  rw [text?, get?_without_of_ne h, text?]

/-- A field that holds no number of 32 bits might as well be absent. -/
theorem word?_without {name : String} (h : fields.word? name = none) (other : String) :
    (fields.without name).word? other = fields.word? other := by
  rw [word?, get?_without]
  split
  · next heq => rw [heq, h, Option.bind_none]
  · rfl

theorem overrides_without (h : fields.word? q.field = none) :
    (fields.without q.field).overrides = fields.overrides := by
  have hencoding : "Encoding" ≠ q.field := by cases q <;> decide
  have haddress : "Address" ≠ q.field := by cases q <;> decide
  have halias : "StreamAddress" ≠ q.field := by cases q <;> decide
  rw [overrides, encoding?, address?, text?_without_of_ne hencoding,
    get?_without_of_ne haddress, text?_without_of_ne halias]
  simp only [word?_without h]
  rfl

/-- A field that holds no number of 32 bits might as well be absent. -/
theorem ofFields_without (h : fields.word? q.field = none) :
    ofFields (fields.without q.field) = ofFields fields := by
  have hverb : "Command" ≠ q.field := by cases q <;> decide
  rw [ofFields, text?_without_of_ne hverb, overrides_without h]
  rfl

end Command.Fields

/-! ## Starts -/

/-- The message is an object with these fields and asks for a start. -/
structure Command.Starts (fields : Fields) (message : Bytes) : Prop where
  loaded : ∃ document, Json.Document.load? message = some document ∧
    document.fields? = some fields.all
  verb : ∃ verb, fields.text? "Command" = some verb ∧ Text.fold verb = "start"

namespace Command.Starts

variable {fields : Fields} {message : Bytes}

theorem parse_eq_ofFields (h : Starts fields message) : parse message = ofFields fields := by
  obtain ⟨document, hload, hfields⟩ := h.loaded
  rw [parse, hload]
  simp only [hfields]

theorem ofFields_eq (h : Starts fields message) :
    ofFields fields =
      match fields.overrides with
      | .ok overrides => .ok (.start overrides)
      | .error cause => .error (.encoding cause) := by
  obtain ⟨verb, hverb, hfold⟩ := h.verb
  cases ho : fields.overrides <;> simp [ofFields, hverb, hfold, ho]

end Command.Starts

namespace Station

variable {ρ π : Type} [MediaEngine ρ π] {s s' : Station ρ π}

/-- What is started has passed the check, and is kept. -/
theorem parameters_of_checkAndStart {p : Parameters} (h : s.checkAndStart p = (.ok (), s')) :
    p.InBounds ∧ s'.parameters = p := by
  rw [checkAndStart] at h
  cases hc : p.check with
  | error cause =>
      rw [hc] at h
      cases h
  | ok _ =>
      rw [hc] at h
      refine ⟨Parameters.check_eq_ok.1 hc, ?_⟩
      simp only at h
      cases hb : s.player.build (s.request p) with
      | mk answer player =>
          cases answer with
          | error cause =>
              rw [startWith_of_failed hb] at h
              cases h
          | ok _ =>
              rw [startWith_of_built hb] at h
              cases h
              rfl

/-- A start whose parameters are out of bounds changes nothing. -/
theorem checkAndStart_of_not_inBounds {p : Parameters} (h : ¬ p.InBounds) :
    ∃ fault, s.checkAndStart p = (.error fault, s) := by
  rw [checkAndStart]
  cases hc : p.check with
  | error cause => exact ⟨_, rfl⟩
  | ok _ => exact absurd (Parameters.check_eq_ok.1 hc) h

theorem command_of_starts {fields : Command.Fields} {message : Bytes}
    (h : Command.Starts fields message) :
    s.command message =
      match fields.overrides with
      | .ok overrides => s.checkAndStart (s.parameters.override overrides)
      | .error cause => (.error (.command (.encoding cause)), s) := by
  rw [command, h.parse_eq_ofFields, h.ofFields_eq]
  cases fields.overrides <;> rfl

section

variable {fields : Command.Fields} {message : Bytes} {q : Quantity} {n : Nat}

/-- A number that is read and not permitted makes a start be refused. -/
theorem command_of_forbidden (h : Command.Starts fields message) (hn : fields.Carries q n)
    (hlt : n < 2 ^ 32) (forbidden : ¬ q.Permits n) :
    ∃ fault, s.command message = (.error fault, s) := by
  rw [command_of_starts h]
  cases ho : fields.overrides with
  | error cause => exact ⟨_, rfl⟩
  | ok overrides =>
      refine checkAndStart_of_not_inBounds fun hbounds => forbidden ?_
      have hpermits := Quantity.permits_of_inBounds hbounds q
      rw [Command.Fields.setting_of_carries ho hn, if_pos hlt,
        UInt32.toNat_ofNat_of_lt' hlt] at hpermits
      exact hpermits

/-- After an accepted start a setting is the number that was carried for it, if that was read. -/
theorem setting_of_accepted (h : Command.Starts fields message)
    (hs : s.command message = (.ok (), s')) (hn : fields.Carries q n) :
    q.setting s'.parameters = if n < 2 ^ 32 then UInt32.ofNat n else q.setting s.parameters := by
  rw [command_of_starts h] at hs
  cases ho : fields.overrides with
  | error cause =>
      rw [ho] at hs
      cases hs
  | ok overrides =>
      rw [ho] at hs
      obtain ⟨-, hparameters⟩ := parameters_of_checkAndStart hs
      rw [hparameters, Command.Fields.setting_of_carries ho hn]

end

/-- What becomes of the natural numbers that a command to start carries, in whatever state the
station is. One below `2 ^ 32` that is not permitted makes the start be refused, and nothing
changes. One that is larger is not read: the command is the one without it. Once the start is
accepted, a setting is the number that was carried for it just if that is below `2 ^ 32`, and else
is what it was. -/
theorem quantities_of_start (s : Station ρ π) {fields : Command.Fields} {message : Bytes}
    (h : Command.Starts fields message) :
    (∀ q n, fields.Carries q n → n < 2 ^ 32 → ¬ q.Permits n →
      ∃ fault, s.command message = (.error fault, s)) ∧
    (∀ q n, fields.Carries q n → 2 ^ 32 ≤ n →
      Command.ofFields (fields.without q.field) = Command.parse message) ∧
    ∀ s', s.command message = (.ok (), s') → ∀ q n, fields.Carries q n →
      ((q.setting s'.parameters).toNat = n ↔ n < 2 ^ 32) ∧
        (2 ^ 32 ≤ n → q.setting s'.parameters = q.setting s.parameters) := by
  refine ⟨fun q n hn hlt forbidden => command_of_forbidden h hn hlt forbidden, ?_, ?_⟩
  · intro q n hn hle
    rw [h.parse_eq_ofFields]
    apply Command.Fields.ofFields_without
    rw [Command.Fields.word?_of_carries hn, if_neg (Nat.not_lt.2 hle)]
  · intro s' hs q n hn
    rw [setting_of_accepted h hs hn]
    by_cases hlt : n < 2 ^ 32
    · rw [if_pos hlt, UInt32.toNat_ofNat_of_lt' hlt]
      exact ⟨iff_of_true rfl hlt, fun hle => absurd hlt (Nat.not_lt.2 hle)⟩
    · rw [if_neg hlt]
      refine ⟨iff_of_false (fun heq => hlt ?_) hlt, fun _ => rfl⟩
      -- no setting is as large as a number that is not read
      rw [← heq]
      exact UInt32.toNat_lt _

/-! ### Two messages -/

/-- A field with a number. -/
def numberField (number : Quantity × Nat) : String × Json.Document :=
  (number.1.field, .ofNat number.2)

/-- The fields of a start with numbers. -/
def startFields (numbers : List (Quantity × Nat)) : Command.Fields :=
  ⟨numbers.map numberField ++ [("Command", .ofText "start")]⟩

/-- The message of a start with numbers. -/
def startOf (numbers : List (Quantity × Nat)) : Bytes :=
  Text.encodeUtf8 (Json.Document.ofFields (startFields numbers).all).toText

theorem starts_startOf {numbers : List (Quantity × Nat)}
    (h : ∀ number ∈ numbers, number.2 ≤ Json.Numeral.maxNatural) :
    Command.Starts (startFields numbers) (startOf numbers) := by
  refine ⟨⟨.ofFields (startFields numbers).all, ?_, Json.Document.fields?_ofFields _⟩,
    "start", ?_, Command.fold_start⟩
  · refine Json.Document.load?_ofFields fun field hm => ?_
    rcases List.mem_append.1 hm with hm | hm
    · obtain ⟨number, hm', rfl⟩ := List.mem_map.1 hm
      exact .ofNat (h number hm')
    · cases List.mem_singleton.1 hm
      exact .ofText "start"
  · have hget : (startFields numbers).get? "Command" = some (.ofText "start") := by
      rw [Command.Fields.get?, startFields, List.reverse_append]
      rfl
    rw [Command.Fields.text?, hget]
    exact Json.Document.text?_ofText "start"

/-- A start with a width that is too large for 32 bits, and a frame rate that is not. -/
def overWide : List (Quantity × Nat) :=
  [(.width, 4294967296), (.fps, 30)]

/-- A start with a height that is not permitted. -/
def tooHigh : List (Quantity × Nat) :=
  [(.height, 4098)]

theorem quantities_of_overWide :
    (Command.Starts (startFields overWide) (startOf overWide) ∧
      Command.Starts (startFields tooHigh) (startOf tooHigh)) ∧
    (∃ s', (faultless []).command (startOf overWide) = (.ok (), s') ∧
      (Quantity.fps.setting s'.parameters).toNat = 30 ∧
      Quantity.width.setting s'.parameters = 640) ∧
    ∃ fault, (faultless []).command (startOf tooHigh) = (.error fault, faultless []) := by
  have haccepted : ((faultless []).command (startOf overWide)).1 = .ok () := by decide +kernel
  have hwide : Command.Starts (startFields overWide) (startOf overWide) :=
    starts_startOf (by decide)
  have hhigh : Command.Starts (startFields tooHigh) (startOf tooHigh) := starts_startOf (by decide)
  obtain ⟨-, -, hkept⟩ := quantities_of_start (faultless []) hwide
  obtain ⟨hrefused, -⟩ := quantities_of_start (faultless []) hhigh
  have carriesWidth : (startFields overWide).Carries .width 4294967296 :=
    ⟨_, rfl, .ofNat 4294967296⟩
  have carriesFps : (startFields overWide).Carries .fps 30 := ⟨_, rfl, .ofNat 30⟩
  have carriesHeight : (startFields tooHigh).Carries .height 4098 := ⟨_, rfl, .ofNat 4098⟩
  refine ⟨⟨hwide, hhigh⟩, ?_, ?_⟩
  · rcases h : (faultless []).command (startOf overWide) with ⟨answer, s'⟩
    rw [h] at haccepted
    cases haccepted
    obtain ⟨-, hwidth⟩ := hkept s' h .width _ carriesWidth
    obtain ⟨hfps, -⟩ := hkept s' h .fps _ carriesFps
    exact ⟨s', rfl, hfps.2 (by decide), hwidth (by decide)⟩
  · exact hrefused .height _ carriesHeight (by decide) (by decide)

/-- A start is not always refused for a number that is not permitted: the width in this one, which
is `2 ^ 32`, is passed over, and the stream starts with the width that was at hand. -/
theorem accepted_although_overWide :
    let s := faultless []
    let message := startOf [(.width, 4294967296)]
    (Command.Starts (startFields [(.width, 4294967296)]) message ∧
      (startFields [(.width, 4294967296)]).Carries .width 4294967296 ∧
      ¬ Quantity.width.Permits 4294967296) ∧
    (s.command message).1 = .ok () ∧
      Quantity.width.setting (s.command message).2.parameters = 640 := by
  intro s message
  refine ⟨⟨starts_startOf (by decide), ?_, by decide⟩, ?_⟩
  · exact ⟨_, rfl, .ofNat 4294967296⟩
  · decide +kernel

end Station

end StandbyStream
