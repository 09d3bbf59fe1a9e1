import StandbyStream.Proofs.Destination.Grammar

/-!
# Destinations that are read back

The brackets around a host are written if there is a colon in it, but they are read if it opens with
one, up to the first closing one. So a destination that has been read is read back from what it is
written as if its host is written as it is and does not open with a bracket, or is written in
brackets and does not hold a closing one (`Destination.ReadsBack`), and otherwise what is written is
refused (`Destination.parse_text`). Both kinds of hosts that are not read back are accepted.
-/

namespace StandbyStream

namespace HostPort

variable {cs host digits : List Char} {n : Nat}

theorem Spells.ne_nil (h : Spells host digits cs) : cs ≠ [] := by
  cases h <;> simp

theorem Spells.getLast (h : Spells host digits cs) (hw : Text.Writes digits n) :
    ∃ c, cs.getLast? = some c ∧ c.isDigit = true := by
  obtain ⟨c, hc, hdigit⟩ := hw.getLast
  refine ⟨c, ?_, hdigit⟩
  cases h <;> simp [List.getLast?_cons, List.getLast?_append, hc]

/-- What opens with a bracket spells an endpoint only if exactly one bracket closes. -/
theorem Spells.count (h : Spells host digits ('[' :: cs)) (hw : Text.Writes digits n) :
    cs.count ']' = 1 := by
  have hdigits : digits.count ']' = 0 :=
    List.count_eq_zero.2 (hw.not_mem (by decide) (by decide))
  generalize hcs : '[' :: cs = text at h
  cases h with
  | bracketed hhost =>
    cases hcs
    rw [List.count_append, List.count_eq_zero.2 hhost, List.count_cons_self,
      List.count_cons_of_ne (by decide), hdigits]
  | bare hopen _ =>
    cases host with
    | nil => cases hcs
    | cons c host =>
      cases hcs
      exact absurd rfl hopen

end HostPort

namespace Destination

/-- What the destination is written as is read as the same destination. -/
def ReadsBack : Destination → Prop
  | .udp host _ =>
    if ':' ∈ host.toList then ']' ∉ host.toList else host.toList.head? ≠ some '['
  | .server _ => True

variable {s host : String} {port : UInt16} {cs body digits : List Char}

/-! ### What is written -/

theorem toList_text_of_colon (port : UInt16) (h : ':' ∈ host.toList) :
    (udp host port).text.toList =
      udpLead ++ '[' :: (host.toList ++ ']' :: ':' :: Nat.toDigits 10 port.toNat) := by
  simp [text, h, udpLead]

theorem toList_text_of_no_colon (port : UInt16) (h : ':' ∉ host.toList) :
    (udp host port).text.toList =
      udpLead ++ (host.toList ++ ':' :: Nat.toDigits 10 port.toNat) := by
  simp [text, h, udpLead]

/-- What ends in a digit has no margin. -/
theorem trimmed_of_last {c : Char} (hc : body.getLast? = some c) (hdigit : c.isDigit = true) :
    Text.Trimmed (udpLead ++ body) (udpLead ++ body) := by
  refine ⟨[], [], by simp, by simp, ?_, ?_⟩
  · rintro _ ⟨⟩
    decide
  · intro last hlast
    rw [List.getLast?_append, hc] at hlast
    cases hlast
    exact Text.isBlank_of_isDigit hdigit

theorem trimmed_text (h : (udp host port).text.toList = cs) :
    Text.Trimmed (udp host port).text.toList cs := by
  subst h
  -- the digits of the port come last
  obtain ⟨c, hc, hdigit⟩ := (Text.writes_toDigits port.toNat).getLast
  by_cases hcolon : ':' ∈ host.toList
  · rw [toList_text_of_colon port hcolon]
    exact trimmed_of_last (by simp [List.getLast?_cons, List.getLast?_append, hc]) hdigit
  · rw [toList_text_of_no_colon port hcolon]
    exact trimmed_of_last (by simp [List.getLast?_cons, List.getLast?_append, hc]) hdigit

/-! ### What is read -/

/-- A text that spells an endpoint after the lead is read as the destination. -/
theorem parse_of_spells (hs : s.toList = udpLead ++ body)
    (hspells : HostPort.Spells host.toList digits body) (hw : Text.Writes digits port.toNat)
    (hhost : host ≠ "") (hport : port ≠ 0) : parse s = .ok (.udp host port) := by
  obtain ⟨c, hc, hdigit⟩ := hspells.getLast hw
  have htrim : Text.Trimmed s.toList (udpLead ++ body) := by
    rw [hs]
    exact trimmed_of_last hc hdigit
  rw [parse_of_lead htrim, parseUdp_eq_ok]
  refine ⟨body, digits, ⟨[], by simp, by simp, ?_⟩, hspells, hhost, hw, ?_, ?_⟩
  · intro last hlast
    rw [hc] at hlast
    cases hlast
    rw [beq_eq_false_iff_ne]
    rintro rfl
    exact absurd hdigit (by decide)
  · exact Nat.pos_of_ne_zero fun hzero => hport (UInt16.toNat_inj.1 hzero)
  · exact Nat.le_of_lt_succ port.toNat_lt

/-- A text that opens with a bracket is refused unless exactly one bracket closes. -/
theorem parse_of_brackets (htrim : Text.Trimmed s.toList (udpLead ++ '[' :: cs))
    (hcount : cs.count ']' ≠ 1) : ∃ fault, parse s = .error fault := by
  rw [parse_of_lead htrim]
  have hend := parseUdp_end (String.ofList (udpLead ++ '[' :: cs)) ('[' :: cs)
  generalize parseUdp (String.ofList (udpLead ++ '[' :: cs)) ('[' :: cs) = result at hend
  cases hend with
  | refused _ _ => exact ⟨_, rfl⟩
  | named hnames =>
    obtain ⟨body, digits, ⟨slashes, hbody, hslashes, -⟩, hspells, -, hw, -⟩ := hnames
    obtain ⟨c, body, rfl⟩ := List.exists_cons_of_ne_nil hspells.ne_nil
    obtain ⟨rfl, hcs⟩ := List.cons.inj hbody
    have hcs : cs = body ++ slashes := hcs
    -- no slash is a bracket
    have hnone : slashes.count ']' = 0 :=
      List.count_eq_zero.2 fun hmem => absurd (hslashes _ hmem) (by decide)
    rw [hcs, List.count_append, hspells.count hw, hnone] at hcount
    exact absurd rfl hcount

/-- The destinations that are read are those with a port and a host that holds no closing bracket or
does not open with a bracket. So there are some with a colon and a closing bracket, and some that
open with a bracket and hold no colon. -/
theorem accepted_iff :
    (∃ s, parse s = .ok (.udp host port)) ↔
      host ≠ "" ∧ port ≠ 0 ∧ (']' ∉ host.toList ∨ host.toList.head? ≠ some '[') := by
  have hw := Text.writes_toDigits port.toNat
  constructor
  · rintro ⟨s, hs⟩
    rcases parse_cases s with he | ⟨rest, htrim, -⟩ | ⟨core, -, -, hl⟩
    · rw [hs] at he
      cases he
    · rw [parse_of_lead htrim, parseUdp_eq_ok] at hs
      obtain ⟨body, digits, -, hspells, hhost, -, hpos, -⟩ := hs
      refine ⟨hhost, ?_, ?_⟩
      · rintro rfl
        exact absurd hpos (by decide)
      · cases hspells with
        | bracketed h => exact .inl h
        | bare hopen _ => exact .inr hopen
    · cases parseLocation_eq_ok (hl.symm.trans hs)
  · rintro ⟨hhost, hport, hclose | hopen⟩
    · exact ⟨String.ofList _,
        parse_of_spells String.toList_ofList (.bracketed hclose) hw hhost hport⟩
    · have hcolon : ':' ∉ Nat.toDigits 10 port.toNat := hw.not_mem (by decide) (by decide)
      exact ⟨String.ofList _,
        parse_of_spells String.toList_ofList (.bare hopen hcolon) hw hhost hport⟩

/-! ### What is read of what is written -/

/-- The location of a server is read as it is. -/
theorem parse_location {location : String} (h : parse s = .ok (.server location)) :
    parse location = .ok (.server location) := by
  rcases parse_cases s with he | ⟨rest, htrim, hend⟩ | ⟨core, htrim, hlead, hl⟩
  · rw [h] at he
    cases he
  · rw [h] at hend
    cases hend
  · have hlocation := hl.symm.trans h
    cases parseLocation_eq_ok hlocation
    have hne : core ≠ [] := by
      rintro rfl
      cases hlocation
    have hself : Text.Trimmed (String.ofList core).toList core := by
      rw [String.toList_ofList]
      exact htrim.self
    rw [parse_of_no_lead hself hne hlead, hlocation]

/-- A host that is written in brackets is read back if there is no closing one in it. -/
theorem parse_text_of_colon (hhost : host ≠ "") (hport : port ≠ 0) (hcolon : ':' ∈ host.toList) :
    (']' ∉ host.toList → parse (udp host port).text = .ok (.udp host port)) ∧
      (']' ∈ host.toList → ∃ fault, parse (udp host port).text = .error fault) := by
  have hw := Text.writes_toDigits port.toNat
  have htext := toList_text_of_colon port hcolon
  constructor
  · intro hclose
    exact parse_of_spells htext (.bracketed hclose) hw hhost hport
  · intro hclose
    apply parse_of_brackets (trimmed_text htext)
    have hpos := List.count_pos_iff.2 hclose
    rw [List.count_append, List.count_cons_self]
    omega

/-- A host that is written as it is is read back if it does not open with a bracket. -/
theorem parse_text_of_no_colon (hhost : host ≠ "") (hport : port ≠ 0)
    (hcolon : ':' ∉ host.toList) :
    (host.toList.head? ≠ some '[' → parse (udp host port).text = .ok (.udp host port)) ∧
      (host.toList.head? = some '[' → ']' ∉ host.toList →
        ∃ fault, parse (udp host port).text = .error fault) := by
  have hw := Text.writes_toDigits port.toNat
  have htext := toList_text_of_no_colon port hcolon
  constructor
  · intro hopen
    have hdigits : ':' ∉ Nat.toDigits 10 port.toNat := hw.not_mem (by decide) (by decide)
    exact parse_of_spells htext (.bare hopen hdigits) hw hhost hport
  · intro hopen hclose
    obtain ⟨rest, hrest⟩ := List.head?_eq_some_iff.1 hopen
    rw [hrest, List.cons_append] at htext
    apply parse_of_brackets (trimmed_text htext)
    have hrest : ']' ∉ rest := fun hmem => hclose (hrest ▸ List.mem_cons_of_mem _ hmem)
    have hdigits : ']' ∉ Nat.toDigits 10 port.toNat := hw.not_mem (by decide) (by decide)
    rw [List.count_append, List.count_eq_zero.2 hrest, List.count_cons_of_ne (by decide),
      List.count_eq_zero.2 hdigits]
    exact Nat.zero_ne_one

/-- A destination that has been read is read back from what it is written as exactly if its host
fits the way in which it is written: one with a colon, which is written in brackets, must not hold a
closing one, and any other must not open with a bracket. Otherwise what is written is refused. The
location of a server is always read back. -/
theorem parse_text (s : String) (d : Destination) (h : parse s = .ok d) :
    (parse d.text = .ok d ↔ d.ReadsBack) ∧
      (¬ d.ReadsBack → ∃ fault, parse d.text = .error fault) := by
  suffices hall : (d.ReadsBack → parse d.text = .ok d) ∧
      (¬ d.ReadsBack → ∃ fault, parse d.text = .error fault) by
    refine ⟨⟨fun hback => ?_, hall.1⟩, hall.2⟩
    apply Classical.byContradiction
    intro hnot
    obtain ⟨fault, hfault⟩ := hall.2 hnot
    rw [hback] at hfault
    cases hfault
  cases d with
  | server location => exact ⟨fun _ => parse_location h, fun hnot => absurd trivial hnot⟩
  | udp host port =>
    obtain ⟨hhost, hport, hor⟩ := accepted_iff.1 ⟨s, h⟩
    by_cases hcolon : ':' ∈ host.toList
    · obtain ⟨hback, hrefused⟩ := parse_text_of_colon hhost hport hcolon
      rw [ReadsBack, if_pos hcolon]
      exact ⟨hback, fun hclose => hrefused (Decidable.not_not.1 hclose)⟩
    · obtain ⟨hback, hrefused⟩ := parse_text_of_no_colon hhost hport hcolon
      rw [ReadsBack, if_neg hcolon]
      refine ⟨hback, fun hopen => ?_⟩
      have hopen := Decidable.not_not.1 hopen
      exact hrefused hopen (hor.resolve_right fun hne => hne hopen)

/-- A host with a colon in brackets, one without brackets, and a server are read back, and a host
that opens with a bracket is not. -/
theorem parse_text_of_trial :
    (parse " udp://[fe80::1]:+080/ " = .ok (.udp "fe80::1" 80) ∧
      parse (udp "fe80::1" 80).text = .ok (.udp "fe80::1" 80)) ∧
    (parse "udp://a]b:80" = .ok (.udp "a]b" 80) ∧
      parse (udp "a]b" 80).text = .ok (.udp "a]b" 80)) ∧
    (parse "rtsp://h/x " = .ok (.server "rtsp://h/x") ∧
      parse (server "rtsp://h/x").text = .ok (.server "rtsp://h/x")) ∧
    parse "udp://[[a]:80" = .ok (.udp "[a" 80) ∧
      ∃ fault, parse (udp "[a" 80).text = .error fault := by
  have hcolon : parse " udp://[fe80::1]:+080/ " = .ok (.udp "fe80::1" 80) := by rfl
  have hplain : parse "udp://a]b:80" = .ok (.udp "a]b" 80) := by rfl
  have hserver : parse "rtsp://h/x " = .ok (.server "rtsp://h/x") := by rfl
  have hopen : parse "udp://[[a]:80" = .ok (.udp "[a" 80) := by rfl
  refine ⟨⟨hcolon, (parse_text _ _ hcolon).1.2 ?_⟩, ⟨hplain, (parse_text _ _ hplain).1.2 ?_⟩,
    ⟨hserver, (parse_text _ _ hserver).1.2 trivial⟩, hopen, (parse_text _ _ hopen).2 ?_⟩
  all_goals
    rw [ReadsBack]
    decide

/-- Two destinations that are read and that what they are written as is not read as: a host with a
colon and a closing bracket, and one that opens with a bracket and holds no colon. -/
theorem refused_text :
    (parse "udp://a]:b:80" = .ok (.udp "a]:b" 80) ∧
      (udp "a]:b" 80).text = "udp://[a]:b]:80" ∧
      parse "udp://[a]:b]:80" =
        .error (.badUdp "udp://[a]:b]:80" (.badPort "[a]:b]:80" .badDigit))) ∧
    (parse "udp://[[a]:80" = .ok (.udp "[a" 80) ∧ (udp "[a" 80).text = "udp://[a:80" ∧
      parse "udp://[a:80" = .error (.badUdp "udp://[a:80" (.unclosedBracket "[a:80"))) ∧
    ¬ ∀ (s : String) (d : Destination), parse s = .ok d → parse d.text = .ok d := by
  refine ⟨⟨by rfl, by rfl, by rfl⟩, ⟨by rfl, by rfl, by rfl⟩, ?_⟩
  intro hall
  have hback := hall "udp://a]:b:80" (.udp "a]:b" 80) (by rfl)
  have hrefused : parse (udp "a]:b" 80).text =
    .error (.badUdp "udp://[a]:b]:80" (.badPort "[a]:b]:80" .badDigit)) := by rfl
  rw [hrefused] at hback
  cases hback

end Destination

end StandbyStream
