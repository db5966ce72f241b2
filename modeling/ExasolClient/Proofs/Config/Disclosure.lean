-- SUMMARY: What the fault of a connection string tells of the password in it.
import ExasolClient.Proofs.Config.Account

/-!
# Disclosure of the password

A fault of a connection string quotes the part of it that is wrong: the port, the address or a
parameter, none of which depends on the account. Only the fault about a missing host quotes the
whole string, and the password with it. Main statement: two connection strings that differ in
their passwords are accepted alike, and their faults have one text unless there is no host
(`password_disclosed_iff`).
-/

namespace ExasolClient.Config

/-! ## Verdicts -/

/-- All that is told of a reading that failed, and nothing of one that did not. -/
def verdict (result : Except ConfigFault α) : Except ConfigFault Unit :=
  result.map fun _ => ()

theorem verdict_eq_error_iff {result : Except ConfigFault α} {fault : ConfigFault} :
    verdict result = .error fault ↔ result = .error fault := by
  cases result with
  | ok a => exact ⟨(nomatch ·), (nomatch ·)⟩
  | error cause =>
    constructor <;> (intro h; cases h; rfl)

/-- Readings with one verdict fail with one fault. -/
theorem fails_alike {result result' : Except ConfigFault α} (h : verdict result = verdict result')
    (fault : ConfigFault) : result = .error fault ↔ result' = .error fault := by
  rw [← verdict_eq_error_iff, h, verdict_eq_error_iff]

/-- Whether a parameter is right does not depend on what is known already. -/
theorem verdict_withParameter (c d : Config) (parameter : List Char) :
    verdict (withParameter c parameter) = verdict (withParameter d parameter) := by
  unfold withParameter
  split
  · rfl
  · rcases (Text.cutFirst '=' parameter).getD (parameter, []) with ⟨name, value⟩
    dsimp only
    split
    · cases TlsMode.ofWord? value <;> rfl
    · split
      · cases readFlag value <;> rfl
      · split <;> rfl

theorem verdict_parameters (parameters : List (List Char)) (c d : Config) :
    verdict (parameters.foldlM withParameter c) = verdict (parameters.foldlM withParameter d) := by
  induction parameters generalizing c d with
  | nil => rfl
  | cons parameter parameters ih =>
    have hfirst := verdict_withParameter c d parameter
    rw [List.foldlM_cons, List.foldlM_cons]
    cases hc : withParameter c parameter with
    | error fault =>
      rw [hc] at hfirst
      rw [verdict_eq_error_iff.1 hfirst.symm]
    | ok c' =>
      cases hd : withParameter d parameter with
      | error fault =>
        rw [hc, hd] at hfirst
        cases hfirst
      | ok d' => exact ih c' d'

/-- Where there is a host, neither the account nor the whole text counts for the verdict. -/
theorem verdict_assemble {address : List Char}
    (h : ∀ port, readAddress address ≠ .ok ([], port)) (parameters : List (List Char))
    (url url' : List Char) (account account' : Option (List Char)) :
    verdict (assemble url account address parameters) =
      verdict (assemble url' account' address parameters) := by
  cases hread : readAddress address with
  | error fault => rw [assemble_of_fault hread, assemble_of_fault hread]
  | ok found =>
    obtain ⟨host, port⟩ := found
    have hhost : host ≠ [] := by
      rintro rfl
      exact h port hread
    rw [assemble_of_host hread hhost, assemble_of_host hread hhost]
    exact verdict_parameters parameters _ _

/-! ## Passwords -/

section Passwords

variable {user password rest : List Char}

/-- What follows the account has no host. -/
def LacksHost (rest : List Char) : Prop :=
  ∃ port, Accepts (authorityOf (Text.trimEnd rest)) [] port

theorem trim_accountUrl : Text.trim (accountUrl user password rest) =
    accountUrl user password (Text.trimEnd rest) := by
  have hfirst : Text.isBlank 'e' = false := by decide
  have hat : Text.isBlank '@' = false := by decide
  obtain ⟨tail, htail⟩ := accountUrl_eq_cons user password rest
  calc Text.trim (accountUrl user password rest)
      = Text.trimEnd (accountUrl user password rest) := by rw [htail, Text.trim_cons hfirst]
    _ = accountUrl user password (Text.trimEnd rest) := by
        rw [accountUrl_append, Text.trimEnd_append_cons hat, ← accountUrl_append]

theorem mem_of_mem_trimEnd {c : Char} {cs : List Char} (h : c ∈ Text.trimEnd cs) : c ∈ cs :=
  List.mem_reverse.1 ((List.dropWhile_sublist _).subset (List.mem_reverse.1 h))

theorem ofUrl_accountUrl (huser : '?' ∉ user) (hpassword : '?' ∉ password) (hrest : '@' ∉ rest) :
    ofUrl (String.ofList (accountUrl user password rest)) =
      assemble (accountUrl user password (Text.trimEnd rest)) (some (user ++ ':' :: password))
        (authorityOf (Text.trimEnd rest)) (parametersOf (Text.trimEnd rest)) := by
  have htrim : Text.trim (String.ofList (accountUrl user password rest)).toList =
      accountUrl user password (Text.trimEnd rest) := by
    rw [String.toList_ofList, trim_accountUrl]
  have haccount : '?' ∉ user ++ ':' :: password := by
    rw [List.mem_append, List.mem_cons, not_or, not_or]
    exact ⟨huser, by decide, hpassword⟩
  have hat : '@' ∉ authorityOf (Text.trimEnd rest) :=
    fun h => hrest (mem_of_mem_trimEnd (mem_of_mem_authorityOf h))
  rw [ofUrl_of_account htrim haccount hat, htrim]

theorem accountUrl_injective {password' : List Char}
    (h : accountUrl user password rest = accountUrl user password' rest) :
    password = password' := by
  unfold accountUrl at h
  simpa using h

theorem message_missingHost (url : String) : (Fault.config (.missingHost url)).message =
    "Configuration error: " ++ ("missing host in URL: " ++ url) := rfl

/-- A missing host is complained of in one way just if the whole texts are the same. -/
theorem message_missingHost_inj {url url' : List Char} :
    (Fault.config (.missingHost (String.ofList url))).message =
      (Fault.config (.missingHost (String.ofList url'))).message ↔ url = url' := by
  rw [message_missingHost, message_missingHost, String.append_right_inj, String.append_right_inj,
    String.ofList_inj]

end Passwords

/--
Two connection strings that differ in the password only are both accepted or both rejected. The
faults with which they are rejected have one text, so that it tells nothing of the password, just
if the passwords are the same or what follows them has a host.
-/
theorem password_disclosed_iff {user password password' rest : List Char} (huser : '?' ∉ user)
    (hpassword : '?' ∉ password) (hpassword' : '?' ∉ password') (hrest : '@' ∉ rest) :
    ((∃ fault, ofUrl (String.ofList (accountUrl user password rest)) = .error fault) ↔
      ∃ fault, ofUrl (String.ofList (accountUrl user password' rest)) = .error fault) ∧
    ∀ fault fault', ofUrl (String.ofList (accountUrl user password rest)) = .error fault →
      ofUrl (String.ofList (accountUrl user password' rest)) = .error fault' →
      ((Fault.config fault).message = (Fault.config fault').message ↔
        password = password' ∨ ¬LacksHost rest) := by
  rw [ofUrl_accountUrl huser hpassword hrest, ofUrl_accountUrl huser hpassword' hrest]
  by_cases hlacks : LacksHost rest
  · have ⟨port, haccepts⟩ := hlacks
    have hread := readAddress_of_accepts haccepts
    rw [assemble_of_no_host hread, assemble_of_no_host hread]
    refine ⟨⟨fun _ => ⟨_, rfl⟩, fun _ => ⟨_, rfl⟩⟩, ?_⟩
    intro fault fault' hfault hfault'
    cases hfault
    cases hfault'
    rw [message_missingHost_inj]
    constructor
    · exact fun h => .inl (accountUrl_injective h)
    · rintro (rfl | hhost)
      · rfl
      · exact absurd hlacks hhost
  · have hhost (port : UInt16) : readAddress (authorityOf (Text.trimEnd rest)) ≠ .ok ([], port) :=
      fun h => hlacks ⟨port, accepts_of_readAddress h⟩
    have hsame := fails_alike (verdict_assemble hhost (parametersOf (Text.trimEnd rest))
      (accountUrl user password (Text.trimEnd rest))
      (accountUrl user password' (Text.trimEnd rest)) (some (user ++ ':' :: password))
      (some (user ++ ':' :: password')))
    refine ⟨exists_congr hsame, ?_⟩
    intro fault fault' hfault hfault'
    cases ((hsame fault).1 hfault).symm.trans hfault'
    exact ⟨fun _ => .inr hlacks, fun _ => rfl⟩

/-- The fault about a port is the same for all passwords. -/
theorem password_kept_of_port :
    ∃ fault fault',
      ofUrl (String.ofList (accountUrl "sys".toList "hunter2".toList "db:80x".toList)) =
        .error fault ∧
      ofUrl (String.ofList (accountUrl "sys".toList "tiger".toList "db:80x".toList)) =
        .error fault' ∧
      (Fault.config fault).message = (Fault.config fault').message := by
  have hhost : ¬LacksHost "db:80x".toList :=
    fun ⟨_, haccepts⟩ => nomatch readAddress_of_accepts haccepts
  obtain ⟨-, hmessages⟩ := @password_disclosed_iff "sys".toList "hunter2".toList "tiger".toList
    "db:80x".toList (by decide) (by decide) (by decide) (by decide)
  exact ⟨_, _, rfl, rfl, (hmessages _ _ rfl rfl).2 (.inr hhost)⟩

/-- Without a host the fault shows the password. -/
theorem password_disclosed :
    ∃ fault fault',
      ofUrl (String.ofList (accountUrl "sys".toList "hunter2".toList ":8563".toList)) =
        .error fault ∧
      ofUrl (String.ofList (accountUrl "sys".toList "tiger".toList ":8563".toList)) =
        .error fault' ∧
      (Fault.config fault).message =
        "Configuration error: missing host in URL: exa://sys:hunter2@:8563" ∧
      (Fault.config fault').message =
        "Configuration error: missing host in URL: exa://sys:tiger@:8563" :=
  ⟨_, _, rfl, rfl, by decide +kernel, by decide +kernel⟩

end ExasolClient.Config
