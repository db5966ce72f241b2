-- SUMMARY: How a connection string with an account is taken apart.
import ExasolClient.Proofs.Config.Address

/-!
# Connection strings with an account

Whatever a user and a password consist of, a connection string is taken apart at the same
places, as long as there is no question mark in them and no `@` in the address: the parameters
begin at the first question mark behind the account, and the address ends there. The account
counts for nothing but the user and the password of the configuration, and for the text of the
fault about a missing host. Main statement: `ofUrl_of_account`.
-/

namespace ExasolClient.Config

/-! ## Before and after the question mark -/

/-- What stands before the parameters, without the slashes at its end. -/
def authorityOf (rest : List Char) : List Char :=
  withoutSlashes (((Text.cutFirst '?' rest).map Prod.fst).getD rest)

/-- The parameters. -/
def parametersOf (rest : List Char) : List (List Char) :=
  ((Text.cutFirst '?' rest).map fun cut => Text.fields '&' cut.2).getD []

theorem withoutSlashes_append_cons {c : Char} (h : c ≠ '/') (before after : List Char) :
    withoutSlashes (before ++ c :: after) = before ++ c :: withoutSlashes after := by
  have hstop : decide (c = '/') = false := decide_eq_false h
  rw [withoutSlashes, List.reverse_append, List.reverse_cons, List.append_assoc,
    List.singleton_append, Text.dropWhile_append_cons hstop]
  simp [withoutSlashes]

theorem withoutSlashes_of_not_mem {cs : List Char} (h : '/' ∉ cs) : withoutSlashes cs = cs := by
  have hkept : cs.reverse.dropWhile (· = '/') = cs.reverse := by
    cases hcs : cs.reverse with
    | nil => rfl
    | cons c rest =>
      have hmem : c ∈ cs := List.mem_reverse.1 (hcs ▸ List.mem_cons_self)
      exact List.dropWhile_cons_of_neg fun hslash => h (of_decide_eq_true hslash ▸ hmem)
  rw [withoutSlashes, hkept, List.reverse_reverse]

theorem authorityOf_append {authority : List Char} (h : '?' ∉ authority)
    (parameters : List Char) :
    authorityOf (authority ++ '?' :: parameters) = withoutSlashes authority := by
  rw [authorityOf, Text.cutFirst_append h]
  rfl

theorem parametersOf_append {authority : List Char} (h : '?' ∉ authority)
    (parameters : List Char) :
    parametersOf (authority ++ '?' :: parameters) = Text.fields '&' parameters := by
  rw [parametersOf, Text.cutFirst_append h]
  rfl

/-- No character is new in the authority. -/
theorem mem_of_mem_authorityOf {c : Char} {rest : List Char} (h : c ∈ authorityOf rest) :
    c ∈ rest := by
  have hcut : c ∈ ((Text.cutFirst '?' rest).map Prod.fst).getD rest :=
    List.mem_reverse.1 ((List.dropWhile_sublist _).subset (List.mem_reverse.1 h))
  cases hfirst : Text.cutFirst '?' rest with
  | none => rwa [hfirst] at hcut
  | some cut =>
    rw [hfirst] at hcut
    rw [(Text.eq_of_cutFirst hfirst).1]
    exact List.mem_append_left _ hcut

section Account

variable {account : List Char}

theorem not_mem_account_at (h : '?' ∉ account) : '?' ∉ account ++ ['@'] := by
  rw [List.mem_append]
  exact not_or.2 ⟨h, by decide⟩

theorem authorityOf_account (h : '?' ∉ account) (rest : List Char) :
    authorityOf (account ++ '@' :: rest) = account ++ '@' :: authorityOf rest := by
  have hcut := Text.cutFirst_append_of_not_mem (not_mem_account_at h) rest
  simp only [List.append_assoc, List.singleton_append] at hcut
  rw [authorityOf, authorityOf, hcut, ← withoutSlashes_append_cons (by decide)]
  cases Text.cutFirst '?' rest <;> rfl

theorem parametersOf_account (h : '?' ∉ account) (rest : List Char) :
    parametersOf (account ++ '@' :: rest) = parametersOf rest := by
  have hcut := Text.cutFirst_append_of_not_mem (not_mem_account_at h) rest
  simp only [List.append_assoc, List.singleton_append] at hcut
  rw [parametersOf, parametersOf, hcut, Option.map_map]
  rfl

end Account

/-! ## The whole -/

/-- The configuration of an account, an address and parameters, which a text was taken apart to. -/
def assemble (url : List Char) (account : Option (List Char)) (address : List Char)
    (parameters : List (List Char)) : Except ConfigFault Config := do
  let (host, port) ← readAddress address
  if host.isEmpty then .error (.missingHost (String.ofList url))
  let c : Config := { host := String.ofList host, port := port }
  parameters.foldlM withParameter (c.withAccount account)

section Assemble

variable {url address : List Char} {account : Option (List Char)} {parameters : List (List Char)}

theorem assemble_of_host {host : List Char} {port : UInt16}
    (haddress : readAddress address = .ok (host, port)) (hhost : host ≠ []) :
    assemble url account address parameters = parameters.foldlM withParameter
      (({ host := String.ofList host, port := port } : Config).withAccount account) := by
  rw [assemble, haddress]
  cases host with
  | nil => exact absurd rfl hhost
  | cons c host => rfl

theorem assemble_of_no_host {port : UInt16} (haddress : readAddress address = .ok ([], port)) :
    assemble url account address parameters = .error (.missingHost (String.ofList url)) := by
  rw [assemble, haddress]
  rfl

theorem assemble_of_fault {fault : ConfigFault} (haddress : readAddress address = .error fault) :
    assemble url account address parameters = .error fault := by
  rw [assemble, haddress]
  rfl

end Assemble

theorem ofUrl_of_lead {url : String} {rest : List Char}
    (h : Text.trim url.toList = "exa://".toList ++ rest) :
    ofUrl url = assemble (Text.trim url.toList) (splitAuthority (authorityOf rest)).1
      (splitAuthority (authorityOf rest)).2 (parametersOf rest) := by
  unfold ofUrl
  rw [h]
  dsimp only
  rw [Text.afterLead_append]
  dsimp only
  rw [authorityOf, parametersOf]
  cases Text.cutFirst '?' rest <;> rfl

/-- The account ends at its `@`, whatever it holds but a question mark. -/
theorem ofUrl_of_account {url : String} {account rest : List Char}
    (h : Text.trim url.toList = "exa://".toList ++ (account ++ '@' :: rest))
    (haccount : '?' ∉ account) (hrest : '@' ∉ authorityOf rest) :
    ofUrl url =
      assemble (Text.trim url.toList) (some account) (authorityOf rest) (parametersOf rest) := by
  have hsplit : splitAuthority (account ++ '@' :: authorityOf rest) =
      (some account, authorityOf rest) := by
    rw [splitAuthority, Text.cutLast_append hrest]
  rw [ofUrl_of_lead h, authorityOf_account haccount, parametersOf_account haccount, hsplit]

/-! ## The account -/

/-- The connection string of a user with a password, and of what follows the account. -/
def accountUrl (user password rest : List Char) : List Char :=
  "exa://".toList ++ (user ++ ':' :: password ++ '@' :: rest)

theorem accountUrl_append (user password rest : List Char) : accountUrl user password rest =
    ("exa://".toList ++ (user ++ ':' :: password)) ++ '@' :: rest :=
  (List.append_assoc _ _ _).symm

theorem accountUrl_eq_cons (user password rest : List Char) :
    ∃ tail, accountUrl user password rest = 'e' :: tail := ⟨_, rfl⟩

/-- The user ends at the first colon. -/
theorem withAccount_of_user {user : List Char} (h : ':' ∉ user) (password : List Char)
    (c : Config) : c.withAccount (some (user ++ ':' :: password)) =
      { c with user := String.ofList user, password := String.ofList password } := by
  rw [withAccount, readAccount, Text.cutFirst_append h]
  rfl

end ExasolClient.Config
