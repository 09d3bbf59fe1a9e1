import StandbyStream.Destination
import StandbyStream.Proofs.Text.Reading

/-!
# The grammar of destinations

What is written as an endpoint is said by `HostPort.Spells`: a host in brackets, in which nothing
but the first closing bracket counts, or a host and the last colon. A text in margins is read as a
UDP destination exactly if it begins like one and an endpoint follows
(`Destination.parseUdp_eq_ok`), and otherwise it is an error of such a destination. Only texts that
do not begin so are locations of servers, and these are kept (`Destination.parse_cases`).
-/

namespace StandbyStream

/-! ## Endpoints -/

namespace HostPort

/-- The ways to write an endpoint with a host and the digits of a port. -/
inductive Spells (host digits : List Char) : List Char → Prop
  /-- The host in brackets. -/
  | bracketed (h : ']' ∉ host) : Spells host digits ('[' :: (host ++ ']' :: ':' :: digits))
  /-- The host as it is. -/
  | bare (hopen : host.head? ≠ some '[') (h : ':' ∉ digits) :
      Spells host digits (host ++ ':' :: digits)

variable {cs host digits : List Char} {endpoint : HostPort} {text : String}

theorem withPort_eq_ok :
    withPort text host digits = .ok endpoint ↔
      endpoint.host.toList = host ∧ Text.Writes digits endpoint.port.toNat := by
  rw [withPort]
  constructor
  · intro h
    split at h
    · next port hport =>
      cases h
      exact ⟨String.toList_ofList, by simpa using Text.readUInt16_eq_ok.1 hport⟩
    · cases h
  · rintro ⟨rfl, hport⟩
    have hport : Text.readUInt16 (String.ofList digits) = .ok endpoint.port :=
      Text.readUInt16_eq_ok.2 (by simpa using hport)
    rw [hport, String.ofList_toList]

theorem parseChars_bracketed (h : ']' ∉ host) :
    parseChars ('[' :: (host ++ ']' :: ':' :: digits)) =
      withPort (String.ofList ('[' :: (host ++ ']' :: ':' :: digits))) host digits := by
  have hcut : Text.cutFirst ']' (host ++ ']' :: ':' :: digits) = some (host, ':' :: digits) :=
    Text.cutFirst_eq_some.2 ⟨rfl, h⟩
  simp only [parseChars, hcut]

theorem parseChars_bare (hopen : host.head? ≠ some '[') (h : ':' ∉ digits) :
    parseChars (host ++ ':' :: digits) =
      withPort (String.ofList (host ++ ':' :: digits)) host digits := by
  have hcut : Text.cutLast ':' (host ++ ':' :: digits) = some (host, digits) :=
    Text.cutLast_eq_some.2 ⟨rfl, h⟩
  rw [parseChars.eq_def]
  split
  · next inner heq =>
    -- the bracket would open the host
    cases host with
    | nil => cases heq
    | cons c host =>
      cases heq
      exact absurd rfl hopen
  · simp only [hcut]

/-- An endpoint is read exactly off the texts that spell it. -/
theorem parseChars_eq_ok :
    parseChars cs = .ok endpoint ↔
      ∃ digits, Spells endpoint.host.toList digits cs ∧ Text.Writes digits endpoint.port.toNat := by
  constructor
  · intro h
    rw [parseChars.eq_def] at h
    split at h
    · split at h
      · cases h
      · next host digits hcut =>
        obtain ⟨rfl, hhost⟩ := Text.cutFirst_eq_some.1 hcut
        obtain ⟨rfl, hport⟩ := withPort_eq_ok.1 h
        exact ⟨digits, .bracketed hhost, hport⟩
      · cases h
    · next hbare =>
      split at h
      · cases h
      · next host digits hcut =>
        obtain ⟨rfl, hdigits⟩ := Text.cutLast_eq_some.1 hcut
        obtain ⟨rfl, hport⟩ := withPort_eq_ok.1 h
        refine ⟨digits, .bare (fun hopen => ?_) hdigits, hport⟩
        obtain ⟨rest, hrest⟩ := List.head?_eq_some_iff.1 hopen
        exact hbare (rest ++ ':' :: digits) (by rw [hrest]; rfl)
  · rintro ⟨digits, hspells, hport⟩
    generalize hhost : endpoint.host.toList = host at hspells
    cases hspells with
    | bracketed h =>
      rw [parseChars_bracketed h]
      exact withPort_eq_ok.2 ⟨hhost, hport⟩
    | bare hopen h =>
      rw [parseChars_bare hopen h]
      exact withPort_eq_ok.2 ⟨hhost, hport⟩

end HostPort

/-! ## Destinations -/

namespace Destination

/-- What follows the lead names a UDP endpoint; slashes at its end do not count. -/
def NamesUdp (rest : List Char) (host : String) (port : Nat) : Prop :=
  ∃ body digits, Text.Stripped (· == '/') rest body ∧ HostPort.Spells host.toList digits body ∧
    host ≠ "" ∧ Text.Writes digits port ∧ 1 ≤ port ∧ port ≤ 65535

/-- The faults of a text that begins like a UDP destination. -/
inductive Fault.OfUdp (text : String) : Fault → Prop
  | endpoint (cause : HostPort.Fault) : OfUdp text (.badUdp text cause)
  | withoutHost : OfUdp text (.udpWithoutHost text)
  | portZero : OfUdp text (.udpPortZero text)

/-- How the reading of a UDP destination ends. -/
inductive UdpEnd (text : String) (rest : List Char) : Except Fault Destination → Prop
  | named {host : String} {port : UInt16} (h : NamesUdp rest host port.toNat) :
      UdpEnd text rest (.ok (.udp host port))
  | refused {fault : Fault} (hfault : fault.OfUdp text)
      (h : ∀ host port, ¬ NamesUdp rest host port) : UdpEnd text rest (.error fault)

variable {s text host location : String} {port : UInt16} {core rest : List Char}

/-- What is named is what the endpoint, if there is one, is read as. -/
theorem namesUdp_iff {n : Nat} :
    NamesUdp rest host n ↔ ∃ endpoint,
      HostPort.parseChars (Text.dropSuffixWhile (· == '/') rest) = .ok endpoint ∧
        endpoint.host = host ∧ endpoint.port.toNat = n ∧ host ≠ "" ∧ endpoint.port ≠ 0 := by
  constructor
  · rintro ⟨body, digits, hbody, hspells, hhost, hport, hpos, hle⟩
    have hn : (UInt16.ofNat n).toNat = n := UInt16.toNat_ofNat_of_lt' (Nat.lt_succ_of_le hle)
    refine ⟨⟨host, UInt16.ofNat n⟩, ?_, rfl, hn, hhost, ?_⟩
    · rw [Text.dropSuffixWhile_eq.2 hbody]
      exact HostPort.parseChars_eq_ok.2 ⟨digits, hspells, hn.symm ▸ hport⟩
    · intro hzero
      have hzero : UInt16.ofNat n = 0 := hzero
      rw [hzero] at hn
      rw [← hn] at hpos
      exact absurd hpos (by decide)
  · rintro ⟨endpoint, hparse, rfl, rfl, hhost, hport⟩
    obtain ⟨digits, hspells, hwrites⟩ := HostPort.parseChars_eq_ok.1 hparse
    refine ⟨_, digits, Text.dropSuffixWhile_eq.1 rfl, hspells, hhost, hwrites, ?_, ?_⟩
    · apply Nat.pos_of_ne_zero
      intro hzero
      exact hport (UInt16.toNat_inj.1 hzero)
    · exact Nat.le_of_lt_succ endpoint.port.toNat_lt

/-- No more than one endpoint is named. -/
theorem NamesUdp.unique {host' : String} {n n' : Nat} (h : NamesUdp rest host n)
    (h' : NamesUdp rest host' n') : host' = host ∧ n' = n := by
  obtain ⟨endpoint, hok, rfl, rfl, -⟩ := namesUdp_iff.1 h
  obtain ⟨endpoint', hok', rfl, rfl, -⟩ := namesUdp_iff.1 h'
  rw [hok] at hok'
  cases hok'
  exact ⟨rfl, rfl⟩

theorem parseUdp_end (text : String) (rest : List Char) :
    UdpEnd text rest (parseUdp text rest) := by
  rw [parseUdp]
  cases hparse : HostPort.parseChars (Text.dropSuffixWhile (· == '/') rest) with
  | error cause =>
    refine .refused (.endpoint cause) fun host port hnames => ?_
    obtain ⟨endpoint, hok, -⟩ := namesUdp_iff.1 hnames
    rw [hparse] at hok
    cases hok
  | ok endpoint =>
    -- whatever is named is this endpoint
    have hnames {host : String} {port : Nat} (h : NamesUdp rest host port) :
        endpoint.host ≠ "" ∧ endpoint.port ≠ 0 := by
      obtain ⟨other, hok, rfl, -, hhost, hport⟩ := namesUdp_iff.1 h
      rw [hparse] at hok
      cases hok
      exact ⟨hhost, hport⟩
    simp only
    split
    · next hhost => exact .refused .withoutHost fun _ _ h => (hnames h).1 hhost
    · next hhost =>
      split
      · next hport => exact .refused .portZero fun _ _ h => (hnames h).2 hport
      · next hport => exact .named (namesUdp_iff.2 ⟨endpoint, hparse, rfl, rfl, hhost, hport⟩)

theorem parseUdp_eq_ok :
    parseUdp text rest = .ok (.udp host port) ↔ NamesUdp rest host port.toNat := by
  have hend := parseUdp_end text rest
  generalize parseUdp text rest = result at hend
  cases hend with
  | named h =>
    constructor
    · rintro ⟨⟩
      exact h
    · intro h'
      obtain ⟨rfl, hport⟩ := h.unique h'
      rw [UInt16.toNat_inj.1 hport]
  | refused _ h =>
    constructor
    · nofun
    · intro h'
      exact absurd h' (h host port.toNat)

theorem parse_of_lead (h : Text.Trimmed s.toList (udpLead ++ rest)) :
    parse s = parseUdp (String.ofList (udpLead ++ rest)) rest := by
  simp only [parse, Text.trimChars_eq.2 h, Text.afterLead_append]
  rfl

theorem parse_of_no_lead (h : Text.Trimmed s.toList core) (hne : core ≠ [])
    (hlead : ∀ rest, core ≠ udpLead ++ rest) : parse s = parseLocation (String.ofList core) := by
  have hafter : Text.afterLead udpLead core = none := by
    cases hafter : Text.afterLead udpLead core with
    | none => rfl
    | some rest => exact absurd (Text.afterLead_eq_some.1 hafter) (hlead rest)
  simp only [parse, Text.trimChars_eq.2 h, hafter]
  rw [if_neg (by simpa using hne)]

theorem parseLocation_eq_ok {d : Destination} (h : parseLocation text = .ok d) :
    d = .server text := by
  rw [parseLocation] at h
  split at h <;> cases h
  rfl

/-- What is read as a destination, by how it begins. -/
theorem parse_cases (s : String) :
    parse s = .error .empty ∨
    (∃ rest, Text.Trimmed s.toList (udpLead ++ rest) ∧
      UdpEnd (String.ofList (udpLead ++ rest)) rest (parse s)) ∨
    ∃ core, Text.Trimmed s.toList core ∧ (∀ rest, core ≠ udpLead ++ rest) ∧
      parse s = parseLocation (String.ofList core) := by
  have htrim : Text.Trimmed s.toList (Text.trimChars s.toList) := Text.trimChars_eq.1 rfl
  generalize Text.trimChars s.toList = core at htrim
  by_cases hne : core = []
  · left
    rw [parse, Text.trimChars_eq.2 htrim, hne]
    rfl
  · right
    by_cases hlead : ∃ rest, core = udpLead ++ rest
    · left
      obtain ⟨rest, rfl⟩ := hlead
      refine ⟨rest, htrim, ?_⟩
      rw [parse_of_lead htrim]
      exact parseUdp_end _ rest
    · right
      have hlead : ∀ rest, core ≠ udpLead ++ rest := fun rest heq => hlead ⟨rest, heq⟩
      exact ⟨core, htrim, hlead, parse_of_no_lead htrim hne hlead⟩

/-- Exactly one text is left of a text without its blank margin. The UDP destinations are the texts
of which something is left that begins with `udp://` and names an endpoint: a host in brackets and
without a closing one, or a host that does not open with a bracket, then a colon and the port,
between one and 65535, in decimal digits after an optional plus, and then slashes. Any other text
that begins so is refused as a UDP destination. The location of a server does not begin so, and it
is what is left of the text. -/
theorem parse_grammar :
    (∀ cs : List Char, ∃ core, ∀ other, Text.Trimmed cs other ↔ other = core) ∧
    (∀ (s host : String) (port : UInt16),
      parse s = .ok (.udp host port) ↔
        ∃ rest, Text.Trimmed s.toList ("udp://".toList ++ rest) ∧
          NamesUdp rest host port.toNat) ∧
    (∀ (s : String) (rest : List Char), Text.Trimmed s.toList ("udp://".toList ++ rest) →
      (∀ host port, ¬ NamesUdp rest host port) →
        ∃ fault, parse s = .error fault ∧
          fault.OfUdp (String.ofList ("udp://".toList ++ rest))) ∧
    (∀ s location : String, parse s = .ok (.server location) →
      Text.Trimmed s.toList location.toList ∧
        ∀ rest, location.toList ≠ "udp://".toList ++ rest) := by
  refine ⟨?_, ?_, ?_, ?_⟩
  · intro cs
    exact ⟨Text.trimChars cs, fun other => Text.trimChars_eq.symm.trans eq_comm⟩
  · intro s host port
    constructor
    · intro h
      rcases parse_cases s with he | ⟨rest, htrim, -⟩ | ⟨core, -, -, hl⟩
      · rw [h] at he
        cases he
      · rw [parse_of_lead htrim, parseUdp_eq_ok] at h
        exact ⟨rest, htrim, h⟩
      · cases parseLocation_eq_ok (hl.symm.trans h)
    · rintro ⟨rest, htrim, hnames⟩
      rw [parse_of_lead htrim, parseUdp_eq_ok]
      exact hnames
  · intro s rest htrim hnone
    rw [parse_of_lead htrim]
    have hend := parseUdp_end (String.ofList (udpLead ++ rest)) rest
    generalize parseUdp (String.ofList (udpLead ++ rest)) rest = result at hend
    cases hend with
    | named h => exact absurd h (hnone _ _)
    | refused hfault _ => exact ⟨_, rfl, hfault⟩
  · intro s location h
    rcases parse_cases s with he | ⟨rest, htrim, hend⟩ | ⟨core, htrim, hlead, hl⟩
    · rw [h] at he
      cases he
    · rw [h] at hend
      cases hend
    · cases parseLocation_eq_ok (hl.symm.trans h)
      rw [String.toList_ofList]
      exact ⟨htrim, hlead⟩

/-- Margins, brackets, a sign, zeros in front and slashes; a port that is too large; a server. -/
theorem parse_of_margins :
    parse "\t udp://[fe80::1]:+080// " = .ok (.udp "fe80::1" 80) ∧
    (∃ fault, parse " udp://a:b:65536" = .error fault ∧ fault.OfUdp "udp://a:b:65536") ∧
    Text.Trimmed " rtsp://h/x\n".toList "rtsp://h/x".toList := by
  obtain ⟨-, hudp, herror, hserver⟩ := parse_grammar
  refine ⟨?_, ?_, ?_⟩
  · refine (hudp _ _ _).2 ⟨"[fe80::1]:+080//".toList, Text.trimChars_eq.1 (by decide),
      "[fe80::1]:+080".toList, "+080".toList, ?_, .bracketed (by decide), by decide, ?_, by decide⟩
    · exact Text.dropSuffixWhile_eq.1 (by decide)
    · exact ⟨"080".toList, .inr rfl, by decide, List.all_eq_true.1 (by decide), by decide⟩
  · refine herror _ "a:b:65536".toList (Text.trimChars_eq.1 (by decide)) ?_
    intro host port hnames
    obtain ⟨endpoint, hok, -⟩ := namesUdp_iff.1 hnames
    have hrefused : HostPort.parseChars (Text.dropSuffixWhile (· == '/') "a:b:65536".toList) =
      .error (.badPort "a:b:65536" .tooLarge) := by rfl
    rw [hrefused] at hok
    cases hok
  · exact (hserver _ "rtsp://h/x" (by rfl)).1

end Destination

end StandbyStream
