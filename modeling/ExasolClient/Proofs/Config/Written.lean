-- SUMMARY: Configurations written as connection strings, and read back from them.
import ExasolClient.Proofs.Config.Account

/-!
# Configurations in writing

A connection string says six things of a configuration, all as they are: the user and the
password, the address, how the connection is protected, whether statements are cached, and the
name of the client. Nothing is encoded, so that a configuration can be written only if no text
holds the character at which it would be cut (`Config.IsWritable`). Main statement: what was
written is read back, whatever else the texts hold (`Config.ofUrl_written`).
-/

namespace ExasolClient

/-! ## Words for a mode -/

/-- A word for a mode, in letters of either case. -/
def TlsMode.IsWord (mode : TlsMode) (word : List Char) : Prop :=
  Text.toLower word ∈ mode.words.map String.toList

theorem TlsMode.IsWord.ofWord? {mode : TlsMode} {word : List Char} (h : mode.IsWord word) :
    TlsMode.ofWord? word = some mode := by
  unfold IsWord at h
  unfold TlsMode.ofWord?
  generalize Text.toLower word = lower at h
  have hwords : ∀ mode : TlsMode, ∀ lower ∈ mode.words.map String.toList,
      [TlsMode.disable, .require, .verifyCa].find? (fun mode =>
        mode.words.any fun w => w.toList = lower) = some mode := by
    intro mode
    cases mode <;> decide
  exact hwords mode lower h

/-- A word is made of letters, dashes and underscores. -/
theorem TlsMode.IsWord.amp_not_mem {mode : TlsMode} {word : List Char} (h : mode.IsWord word) :
    '&' ∉ word := by
  intro hmem
  have hlower : '&' ∈ Text.toLower word := List.mem_map.2 ⟨'&', hmem, rfl⟩
  have hwords : ∀ mode : TlsMode, ∀ text ∈ mode.words.map String.toList, '&' ∉ text := by
    intro mode
    cases mode <;> decide
  exact hwords mode _ h hlower

namespace Config

/-! ## Parameters -/

section Parameters

variable {c : Config}

theorem withParameter_tls {word : List Char} {mode : TlsMode} (h : mode.IsWord word) :
    withParameter c ("tls".toList ++ '=' :: word) = .ok { c with tlsMode := mode } := by
  have hcut : Text.cutFirst '=' ("tls".toList ++ '=' :: word) = some ("tls".toList, word) :=
    Text.cutFirst_append (by decide)
  unfold withParameter
  rw [hcut]
  simp [h.ofWord?]

theorem withParameter_cache (enabled : Bool) :
    withParameter c ("cache".toList ++ '=' :: (toString enabled).toList) =
      .ok { c with cacheStatements := enabled } := by
  cases enabled <;> rfl

theorem withParameter_client (name : List Char) :
    withParameter c ("client".toList ++ '=' :: name) =
      .ok { c with clientName := String.ofList name } := by
  have hcut : Text.cutFirst '=' ("client".toList ++ '=' :: name) = some ("client".toList, name) :=
    Text.cutFirst_append (by decide)
  unfold withParameter
  rw [hcut]
  simp

end Parameters

/-- The parameters of a configuration, with this word for its mode. -/
def parameterText (c : Config) (word : List Char) : List Char :=
  ("tls".toList ++ '=' :: word) ++
    '&' :: (("cache".toList ++ '=' :: (toString c.cacheStatements).toList) ++
      '&' :: ("client".toList ++ '=' :: c.clientName.toList))

theorem fields_parameterText {c : Config} {word : List Char} (hword : '&' ∉ word)
    (hname : '&' ∉ c.clientName.toList) : Text.fields '&' (c.parameterText word) =
      ["tls".toList ++ '=' :: word, "cache".toList ++ '=' :: (toString c.cacheStatements).toList,
        "client".toList ++ '=' :: c.clientName.toList] := by
  have htls : '&' ∉ "tls".toList ++ '=' :: word := by
    rw [List.mem_append, List.mem_cons, not_or, not_or]
    exact ⟨by decide, by decide, hword⟩
  have hcache : '&' ∉ "cache".toList ++ '=' :: (toString c.cacheStatements).toList := by
    cases c.cacheStatements <;> decide
  have hclient : '&' ∉ "client".toList ++ '=' :: c.clientName.toList := by
    rw [List.mem_append, List.mem_cons, not_or, not_or]
    exact ⟨by decide, by decide, hname⟩
  rw [parameterText, Text.fields_append htls, Text.fields_append hcache,
    Text.fields_of_not_mem hclient]

/-! ## Addresses -/

theorem mem_hostText {d : Char} {host : List Char} (h : d ∈ hostText host) :
    d ∈ host ∨ d = '[' ∨ d = ']' := by
  unfold hostText at h
  split at h
  · simp only [List.cons_append, List.mem_cons, List.mem_append, List.not_mem_nil, or_false] at h
    rcases h with h | h | h
    · exact .inr (.inl h)
    · exact .inl h
    · exact .inr (.inr h)
  · exact .inl h

/-- A host and a port are read back from their address. -/
theorem readAddress_written {host : List Char} (hopening : host.head? ≠ some '[')
    (hclosing : ']' ∉ host) (port : UInt16) :
    readAddress (hostText host ++ ':' :: portText port) = .ok (host, port) := by
  have hport : Text.IsNumeral (portText port) port.toNat := Text.isNumeral_writeNat port.toNat
  apply readAddress_of_accepts
  refine .inl ?_
  unfold hostText
  split
  · rw [List.append_assoc]
    exact .bracketedPort hclosing hport
  · exact .hostPort hopening hport

/-! ## The whole -/

/-- No text of the configuration holds a character at which it would be cut. -/
structure IsWritable (c : Config) : Prop where
  user : ':' ∉ c.user.toList ∧ '?' ∉ c.user.toList
  password : '?' ∉ c.password.toList
  hasHost : c.host ≠ ""
  host : '@' ∉ c.host.toList ∧ '?' ∉ c.host.toList ∧ ']' ∉ c.host.toList
  unbracketed : c.host.toList.head? ≠ some '['
  clientName : '&' ∉ c.clientName.toList
  clientNameEnd : ∀ d ∈ c.clientName.toList.getLast?, Text.isBlank d = false

/-- The connection string of a configuration, with this word for its mode. -/
def written (c : Config) (word : List Char) : List Char :=
  accountUrl c.user.toList c.password.toList (c.socketAddress.toList ++ '?' :: c.parameterText word)

section Written

variable {c : Config} {word : List Char}

/-- The address says nothing but the host and the port. -/
theorem socketAddress_congr {d : Config} (hhost : d.host = c.host) (hport : d.port = c.port) :
    d.socketAddress = c.socketAddress := by
  rw [socketAddress, socketAddress, hhost, hport]

theorem endpoint_congr {d : Config} (hhost : d.host = c.host) (hport : d.port = c.port)
    (hmode : d.tlsMode = c.tlsMode) : d.endpoint = c.endpoint := by
  rw [endpoint, endpoint, hmode, socketAddress_congr hhost hport]

theorem socketAddress_toList (c : Config) :
    c.socketAddress.toList = hostText c.host.toList ++ ':' :: portText c.port :=
  String.toList_ofList

theorem not_mem_socketAddress {d : Char} (hd : d ∉ c.host.toList)
    (hplain : Text.digitValue? d = none) (hmark : d ∉ ['[', ']', ':', '+']) :
    d ∉ c.socketAddress.toList := by
  simp only [List.mem_cons, List.not_mem_nil, or_false, not_or] at hmark
  obtain ⟨hopening, hclosing, hcolon, hplus⟩ := hmark
  rw [socketAddress_toList, List.mem_append, List.mem_cons, not_or, not_or]
  refine ⟨fun hmem => ?_, hcolon, (Text.isNumeral_writeNat c.port.toNat).not_mem hplus hplain⟩
  rcases mem_hostText hmem with hmem | hmem | hmem
  · exact hd hmem
  · exact hopening hmem
  · exact hclosing hmem

/-- Behind the port there is no slash to take off. -/
theorem withoutSlashes_socketAddress (c : Config) :
    withoutSlashes c.socketAddress.toList = c.socketAddress.toList := by
  have hport : '/' ∉ portText c.port :=
    (Text.isNumeral_writeNat c.port.toNat).not_mem (by decide) rfl
  rw [socketAddress_toList, withoutSlashes_append_cons (by decide), withoutSlashes_of_not_mem hport]

/-- A connection string ends with the name of the client, or else with the sign before it. -/
theorem written_getLast? :
    (c.written word).getLast? = some (c.clientName.toList.getLast?.getD '=') := by
  rw [written, accountUrl_append, parameterText]
  simp [List.getLast?_append, List.getLast?_cons]

/-- White space around a connection string is of no account. -/
theorem trim_written (h : c.IsWritable) {before after : List Char}
    (hbefore : ∀ d ∈ before, Text.isBlank d = true)
    (hafter : ∀ d ∈ after, Text.isBlank d = true) :
    Text.trim (before ++ c.written word ++ after) = c.written word := by
  have hfirst : Text.isBlank 'e' = false := by decide
  have hlast : ∀ d ∈ (c.written word).getLast?, Text.isBlank d = false := by
    intro d hd
    rw [written_getLast?] at hd
    cases hname : c.clientName.toList.getLast? with
    | none =>
      rw [hname] at hd
      cases hd
      decide
    | some last =>
      rw [hname] at hd
      cases hd
      exact h.clientNameEnd last hname
  exact Text.trim_surrounded hfirst hlast hbefore hafter

end Written

/--
A configuration is read back from its connection string, with white space around it or none:
the user, the password, the host, the port, the mode, the cache flag and the client name are the
same, and everything else is as usual. So it leads to the same endpoint and the same address.
-/
theorem ofUrl_written (c : Config) (h : c.IsWritable) (word before after : List Char)
    (hword : c.tlsMode.IsWord word) (hbefore : ∀ d ∈ before, Text.isBlank d = true)
    (hafter : ∀ d ∈ after, Text.isBlank d = true) :
    ∃ d, ofUrl (String.ofList (before ++ c.written word ++ after)) = .ok d ∧
      d = { host := c.host, port := c.port, user := c.user, password := c.password,
            tlsMode := c.tlsMode, cacheStatements := c.cacheStatements,
            clientName := c.clientName } ∧
      d.endpoint = c.endpoint ∧ d.socketAddress = c.socketAddress := by
  refine ⟨_, ?_, rfl, endpoint_congr rfl rfl rfl, socketAddress_congr rfl rfl⟩
  have htrim : Text.trim (String.ofList (before ++ c.written word ++ after)).toList =
      c.written word := by
    rw [String.toList_ofList, trim_written h hbefore hafter]
  have haccount : '?' ∉ c.user.toList ++ ':' :: c.password.toList := by
    simpa using ⟨h.user.2, h.password⟩
  have hquestion := not_mem_socketAddress h.host.2.1 rfl (by decide)
  have hat := not_mem_socketAddress h.host.1 rfl (by decide)
  have hauthority := authorityOf_append hquestion (c.parameterText word)
  rw [withoutSlashes_socketAddress] at hauthority
  have hparameters := parametersOf_append hquestion (c.parameterText word)
  rw [fields_parameterText hword.amp_not_mem h.clientName] at hparameters
  have haddress := readAddress_written h.unbracketed h.host.2.2 c.port
  rw [← socketAddress_toList] at haddress
  have hhost : c.host.toList ≠ [] := fun hnil => h.hasHost (String.toList_eq_nil_iff.1 hnil)
  have hrest : '@' ∉ authorityOf (c.socketAddress.toList ++ '?' :: c.parameterText word) := by
    rw [hauthority]
    exact hat
  rw [ofUrl_of_account htrim haccount hrest, hauthority, hparameters,
    assemble_of_host haddress hhost, withAccount_of_user h.user.1]
  simp only [List.foldlM_cons, withParameter_tls hword, withParameter_cache,
    withParameter_client, String.ofList_toList]
  rfl

/-- A server with a numerical address, and texts that hold most of the marks. -/
def loader : Config where
  host := "::1"
  port := 8899
  user := "sys"
  password := "p@ss:/word"
  tlsMode := .verifyCa
  cacheStatements := true
  clientName := "etl?a=b@c"

theorem ofUrl_written_loader :
    loader.IsWritable ∧ loader.tlsMode.IsWord "Verify_CA".toList ∧
    ofUrl " exa://sys:p@ss:/word@[::1]:8899?tls=Verify_CA&cache=true&client=etl?a=b@c " =
      .ok loader := by
  have hlast : ∀ d ∈ loader.clientName.toList.getLast?, Text.isBlank d = false := by
    intro d hd
    cases Option.some.inj (hd : some 'c' = some d)
    decide
  have hwritable : loader.IsWritable :=
    ⟨by decide, by decide, by decide, by decide, by decide, by decide, hlast⟩
  have hword : loader.tlsMode.IsWord "Verify_CA".toList := by
    unfold TlsMode.IsWord
    decide
  have hblank : ∀ d ∈ [' '], Text.isBlank d = true := List.forall_mem_singleton.2 rfl
  obtain ⟨d, hread, rfl, -⟩ :=
    ofUrl_written loader hwritable "Verify_CA".toList [' '] [' '] hword hblank hblank
  have htext : String.ofList ([' '] ++ loader.written "Verify_CA".toList ++ [' ']) =
      " exa://sys:p@ss:/word@[::1]:8899?tls=Verify_CA&cache=true&client=etl?a=b@c " := by
    decide +kernel
  rw [htext] at hread
  exact ⟨hwritable, hword, hread⟩

end Config
end ExasolClient
