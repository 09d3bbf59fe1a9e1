import StandbyStream.Broker.Tls
import StandbyStream.Proofs.Checks

/-!
# Encryption is not lost

An endpoint is encrypted exactly if the caller or the scheme of its address asks for it
(`useTls_of_parse`), material is loaded exactly from the paths that are given (`load_eq_ok`), and a
transport is chosen only where it uses all of that material (`choose_eq_ok`). Together they say
which transport there is for what was given (`transport_of_given`).
-/

namespace StandbyStream

open Checks

/-! ## Addresses -/

namespace Endpoint

/-- The address, its margin aside, has a scheme that asks for encryption. -/
def AsksForTls (text : String) : Prop :=
  ∃ rest, Text.trimChars text.toList = "mqtts://".toList ++ rest ∨
    Text.trimChars text.toList = "ssl://".toList ++ rest

theorem eq_append_of_cutScheme {cs scheme rest : List Char}
    (h : cutScheme cs = some (scheme, rest)) : cs = scheme ++ "://".toList ++ rest := by
  fun_induction cutScheme cs generalizing scheme rest with
  | case1 => cases h
  | case2 tail =>
    cases h
    rfl
  | case3 c tail hne ih =>
    obtain ⟨⟨before, after⟩, hcut, heq⟩ := Option.map_eq_some_iff.1 h
    cases heq
    rw [ih hcut]
    rfl

theorem schemeTls?_eq_true {scheme : String} :
    schemeTls? scheme = some true ↔ scheme = "mqtts" ∨ scheme = "ssl" := by
  rw [schemeTls?]
  split
  · next h =>
    simp only [List.mem_cons, List.not_mem_nil, or_false] at h
    rcases h with rfl | rfl <;> decide
  · split
    · next h =>
      simpa using h
    · next h =>
      simpa using h

/-- The scheme that is cut off tells whether the address asks for encryption. -/
theorem asksForTls_iff {text : String} :
    AsksForTls text ↔ ∃ scheme rest, cutScheme (Text.trimChars text.toList) = some (scheme, rest) ∧
      schemeTls? (String.ofList scheme) = some true := by
  constructor
  · rintro ⟨rest, h | h⟩
    · exact ⟨"mqtts".toList, rest, by rw [h]; rfl, rfl⟩
    · exact ⟨"ssl".toList, rest, by rw [h]; rfl, rfl⟩
  · rintro ⟨scheme, rest, hcut, htls⟩
    have htext := eq_append_of_cutScheme hcut
    rcases schemeTls?_eq_true.1 htls with hscheme | hscheme
    · have hchars : scheme = "mqtts".toList := by
        rw [← hscheme, String.toList_ofList]
      exact ⟨rest, .inl (by rw [htext, hchars]; rfl)⟩
    · have hchars : scheme = "ssl".toList := by
        rw [← hscheme, String.toList_ofList]
      exact ⟨rest, .inr (by rw [htext, hchars]; rfl)⟩

theorem useTls_of_parse {text : String} {forceTls : Bool} {endpoint : Endpoint}
    (h : Endpoint.parse text forceTls = .ok endpoint) :
    endpoint.useTls = true ↔ forceTls = true ∨ AsksForTls text := by
  rw [asksForTls_iff]
  rw [Endpoint.parse] at h
  -- the host and the port have no say in it
  split at h
  · next hcut =>
    simp only at h
    split at h
    · cases h
    · cases h
      simp [hcut]
  · next scheme rest hcut =>
    split at h
    · cases h
    · next tls htls =>
      simp only at h
      split at h
      · cases h
      · cases h
        simp [hcut, htls]

end Endpoint

/-! ## Material -/

namespace TlsMaterial

variable {files : Files} {authority certificate key : Option String} {m : TlsMaterial}

theorem mapM_eq_ok {path : Option String} {contents : Option Bytes} :
    path.mapM files = .ok contents ↔
      (path = .none ∧ contents = .none) ∨
        ∃ p bytes, path = some p ∧ contents = some bytes ∧ files p = .ok bytes := by
  cases path with
  | none => simp [pure, Except.pure, eq_comm]
  | some p =>
    rw [Option.mapM_some]
    cases hfile : files p with
    | error cause => simp [Functor.map, Except.map, hfile]
    | ok bytes => simp [Functor.map, Except.map, hfile, eq_comm]

theorem loadAuthority_eq_ok {contents : Option Bytes} :
    loadAuthority files authority = .ok contents ↔ authority.mapM files = .ok contents := by
  cases authority with
  | none => simp [loadAuthority, pure, Except.pure]
  | some path =>
    rw [loadAuthority, Option.mapM_some]
    cases hfile : files path with
    | error cause => simp [Functor.map, Except.map]
    | ok bytes => simp [Functor.map, Except.map]

theorem loadClient_eq_ok {client : Option ClientCertificate} :
    loadClient files certificate key = .ok client ↔
      certificate.mapM files = .ok (client.map (·.certificate)) ∧
        key.mapM files = .ok (client.map (·.key)) := by
  rw [mapM_eq_ok, mapM_eq_ok]
  fun_cases loadClient files certificate key with
  | case1 => cases client <;> simp
  | case2 => cases client <;> simp
  | case3 => cases client <;> simp
  | case4 c k cause hc => cases client <;> simp [hc]
  | case5 c k bytes hc cause hk => cases client <;> simp [hc, hk]
  | case6 c k bytes hc contents hk =>
    cases client with
    | none => simp
    | some own =>
      rcases own with ⟨own, secret⟩
      simp [hc, hk]

theorem load_eq_ok :
    load files authority certificate key = .ok m ↔
      authority.mapM files = .ok m.authority ∧
        certificate.mapM files = .ok (m.client.map (·.certificate)) ∧
        key.mapM files = .ok (m.client.map (·.key)) := by
  rw [← loadAuthority_eq_ok, ← loadClient_eq_ok, load, bind_eq_ok]
  simp only [bind_eq_ok]
  constructor
  · rintro ⟨trusted, htrusted, client, hclient, heq⟩
    cases heq
    exact ⟨htrusted, hclient⟩
  · rintro ⟨htrusted, hclient⟩
    exact ⟨_, htrusted, _, hclient, rfl⟩

/-- Where nothing has been loaded no path was given. -/
theorem eq_none_of_load (h : load files authority certificate key = .ok .none) :
    authority = .none ∧ certificate = .none ∧ key = .none := by
  obtain ⟨hauthority, hcertificate, hkey⟩ := load_eq_ok.1 h
  simp only [mapM_eq_ok, TlsMaterial.none, Option.map_none, reduceCtorEq, and_true, false_and,
    and_false, exists_false, or_false] at hauthority hcertificate hkey
  exact ⟨hauthority, hcertificate, hkey⟩

/-- What has been loaded of a path that was given. -/
theorem exists_of_mapM {path : Option String} {bytes : Bytes}
    (h : path.mapM files = .ok (some bytes)) : ∃ p, path = some p ∧ files p = .ok bytes := by
  rcases mapM_eq_ok.1 h with ⟨-, ⟨⟩⟩ | ⟨p, _, hp, ⟨⟩, hfile⟩
  exact ⟨p, hp, hfile⟩

theorem eq_none_of_mapM {path : Option String} (h : path.mapM files = .ok .none) :
    path = .none := by
  rcases mapM_eq_ok.1 h with ⟨hp, -⟩ | ⟨_, _, -, ⟨⟩, -⟩
  exact hp

end TlsMaterial

/-! ## Transports -/

namespace Transport

variable {endpoint : Endpoint} {m : TlsMaterial} {transport : Transport}

/-- A transport uses all material that there is, and is encrypted exactly if the endpoint is. -/
theorem choose_eq_ok :
    choose endpoint m = .ok transport ↔
      (endpoint.useTls = false ∧ m = .none ∧ transport = .plain) ∨
      (endpoint.useTls = true ∧ m = .none ∧ transport = .usualAuthorities) ∨
      (endpoint.useTls = true ∧ ∃ trusted client,
        m = ⟨some trusted, client⟩ ∧ transport = .ownAuthority trusted client) := by
  rcases m with ⟨trusted, client⟩
  cases htls : endpoint.useTls with
  | false =>
    cases trusted <;> cases client <;>
      simp [choose, TlsMaterial.isGiven, TlsMaterial.none, htls, eq_comm]
  | true =>
    cases trusted with
    | none =>
      cases client <;> simp [choose, TlsMaterial.isGiven, TlsMaterial.none, htls, eq_comm]
    | some trusted =>
      simp only [choose, TlsMaterial.isGiven, TlsMaterial.none, htls]
      constructor
      · intro h
        cases h
        exact .inr (.inr ⟨trivial, trusted, client, rfl, rfl⟩)
      · rintro (⟨⟨⟩, -⟩ | ⟨-, ⟨⟩, -⟩ | ⟨-, _, _, ⟨⟩, rfl⟩)
        rfl

/-- The transport to an endpoint, by what was given for it. There are three: none is encrypted that
was not asked to be, none that was asked to be is left plain, and as soon as one path is given the
connection is encrypted and trusts what the path of the authority holds and nothing else. It shows a
certificate of this client exactly if the paths of the certificate and its key are given, and then
what these hold. -/
theorem transport_of_given {files : Files} {text : String} {forceTls : Bool}
    {authority certificate key : Option String}
    (hload : TlsMaterial.load files authority certificate key = .ok m)
    (hparse : Endpoint.parse text forceTls = .ok endpoint)
    (hchoose : choose endpoint m = .ok transport) :
    (transport = .plain ↔
      ¬(forceTls = true ∨ Endpoint.AsksForTls text) ∧
        authority = none ∧ certificate = none ∧ key = none) ∧
    (transport = .usualAuthorities ↔
      (forceTls = true ∨ Endpoint.AsksForTls text) ∧
        authority = none ∧ certificate = none ∧ key = none) ∧
    (authority ≠ none ∨ certificate ≠ none ∨ key ≠ none →
      (forceTls = true ∨ Endpoint.AsksForTls text) ∧
      ∃ path trusted client, authority = some path ∧ files path = .ok trusted ∧
        transport = .ownAuthority trusted client ∧
        match client with
        | none => certificate = none ∧ key = none
        | some own => ∃ ofCertificate ofKey,
          certificate = some ofCertificate ∧ files ofCertificate = .ok own.certificate ∧
          key = some ofKey ∧ files ofKey = .ok own.key) := by
  have htls := Endpoint.useTls_of_parse hparse
  rcases choose_eq_ok.1 hchoose with ⟨hoff, rfl, rfl⟩ | ⟨hon, rfl, rfl⟩ |
    ⟨hon, trusted, client, rfl, rfl⟩
  · obtain ⟨rfl, rfl, rfl⟩ := TlsMaterial.eq_none_of_load hload
    rw [hoff] at htls
    simp [← htls]
  · obtain ⟨rfl, rfl, rfl⟩ := TlsMaterial.eq_none_of_load hload
    simp [← htls, hon]
  · obtain ⟨hauthority, hcertificate, hkey⟩ := TlsMaterial.load_eq_ok.1 hload
    obtain ⟨path, rfl, hfile⟩ := TlsMaterial.exists_of_mapM hauthority
    refine ⟨by simp, by simp, fun _ => ⟨htls.1 hon, path, trusted, client, rfl, hfile, rfl, ?_⟩⟩
    cases client with
    | none => exact ⟨TlsMaterial.eq_none_of_mapM hcertificate, TlsMaterial.eq_none_of_mapM hkey⟩
    | some own =>
      obtain ⟨ofCertificate, hc, hcfile⟩ := TlsMaterial.exists_of_mapM hcertificate
      obtain ⟨ofKey, hk, hkfile⟩ := TlsMaterial.exists_of_mapM hkey
      exact ⟨ofCertificate, ofKey, hc, hcfile, hk, hkfile⟩

/-- Files with an authority and a certificate of a client with its key. -/
def trialFiles : Files
  | "ca.pem" => .ok [1]
  | "own.pem" => .ok [2]
  | "own.key" => .ok []
  | _ => .error .missing

/-- What the trial loads: an authority, and a certificate with an empty key. -/
def trialMaterial : TlsMaterial :=
  ⟨some [1], some ⟨[2], []⟩⟩

/-- A scheme asks for encryption, and all that is given goes into the transport, an empty key
included. -/
theorem transport_of_given_of_trial :
    TlsMaterial.load trialFiles (some "ca.pem") (some "own.pem") (some "own.key") =
        .ok trialMaterial ∧
      Endpoint.parse " ssl://[::1]:8883" false = .ok ⟨"::1", 8883, true⟩ ∧
      ∃ trusted own,
        choose ⟨"::1", 8883, true⟩ trialMaterial = .ok (.ownAuthority trusted (some own)) ∧
        trialFiles "ca.pem" = .ok trusted ∧ trialFiles "own.pem" = .ok own.certificate ∧
        trialFiles "own.key" = .ok own.key := by
  have hload : TlsMaterial.load trialFiles (some "ca.pem") (some "own.pem") (some "own.key") =
      .ok trialMaterial := rfl
  have hparse : Endpoint.parse " ssl://[::1]:8883" false = .ok ⟨"::1", 8883, true⟩ := rfl
  have hchoose : choose ⟨"::1", 8883, true⟩ trialMaterial =
      .ok (.ownAuthority [1] (some ⟨[2], []⟩)) := rfl
  obtain ⟨-, -, huses⟩ := transport_of_given hload hparse hchoose
  obtain ⟨-, path, trusted, client, ⟨⟩, hfile, ⟨⟩, hclient⟩ := huses (.inl nofun)
  obtain ⟨ofCertificate, ofKey, ⟨⟩, hcertificate, ⟨⟩, hkey⟩ := hclient
  exact ⟨hload, hparse, _, _, hchoose, hfile, hcertificate, hkey⟩

end Transport

end StandbyStream
