-- SUMMARY: The key with which a password is encrypted, however its two numbers are spelled.
import ExasolClient.Crypto.Password
import ExasolClient.Proofs.Text.Solid
import Mathlib.Tactic.SplitIfs

/-!
# Spellings of keys

A server may spell the numbers of its key in many ways: with digits of either case, with zeros and
a mark before them, with white space around them. All spellings of a number read as that number
(`Spelling.readHex_text`), so the key hangs on the numbers alone. The armoured text decides only
what becomes of a password whose two numbers are no key. Main statement: `key_chosen`.
-/

namespace ExasolClient.Crypto

/-! ## Hexadecimal digits -/

section Digits

variable {c : Char} {d n acc : Nat} {cs ds : List Char}

/-- The value of a digit by the code of its character. -/
theorem hexDigitValue?_eq (c : Char) : hexDigitValue? c =
    if 48 ≤ c.toNat ∧ c.toNat ≤ 57 then some (c.toNat - 48)
    else if 97 ≤ c.toNat ∧ c.toNat ≤ 102 then some (c.toNat - 97 + 10)
    else if 65 ≤ c.toNat ∧ c.toNat ≤ 70 then some (c.toNat - 65 + 10) else none := rfl

theorem toNat_toLower (c : Char) :
    c.toLower.toNat = if 65 ≤ c.toNat ∧ c.toNat ≤ 90 then c.toNat + 32 else c.toNat := by
  unfold Char.toLower
  split
  next h =>
    have hupper : 65 ≤ c.toNat ∧ c.toNat ≤ 90 := h
    rw [if_pos hupper]
    change (c.val + 32).toNat = _
    rw [UInt32.toNat_add]
    change (c.toNat + 32) % 2 ^ 32 = c.toNat + 32
    omega
  next h =>
    have hupper : ¬(65 ≤ c.toNat ∧ c.toNat ≤ 90) := h
    rw [if_neg hupper]

theorem toNat_digitChar (hd : d < 16) :
    (Nat.digitChar d).toNat = if d < 10 then 48 + d else 87 + d := by
  revert d
  decide

/-- A digit of either case has the value of that digit in lower case. -/
theorem hexDigitValue?_of_toLower (hd : d < 16) (h : c.toLower = Nat.digitChar d) :
    hexDigitValue? c = some d := by
  have hcode := congrArg Char.toNat h
  rw [toNat_toLower, toNat_digitChar hd] at hcode
  rw [hexDigitValue?_eq]
  split_ifs at hcode ⊢ <;> first | omega | (congr 1; omega)

/-- A text of hexadecimal digits. -/
def IsHex (cs : List Char) : Prop := ∀ c ∈ cs, (hexDigitValue? c).isSome = true

@[simp]
theorem isHex_append : IsHex (cs ++ ds) ↔ IsHex cs ∧ IsHex ds := List.forall_mem_append

theorem isHex_zeros (k : Nat) : IsHex (List.replicate k '0') := fun c hc => by
  rw [List.eq_of_mem_replicate hc]
  rfl

theorem isHex_singleton (h : hexDigitValue? c = some d) : IsHex [c] := by
  simp [IsHex, h]

theorem IsHex.isSolid (h : IsHex cs) : Text.IsSolid cs := by
  intro c hc
  have hdigit := h c hc
  rw [hexDigitValue?_eq] at hdigit
  rw [Bool.eq_false_iff]
  intro hblank
  simp only [Text.isBlank, Bool.or_eq_true, Bool.and_eq_true, beq_iff_eq, decide_eq_true_eq]
    at hblank
  split_ifs at hdigit
  · omega
  · omega
  · omega
  · cases hdigit

theorem hexDigitsValue?_append (acc : Nat) (cs ds : List Char) :
    hexDigitsValue? acc (cs ++ ds) = (hexDigitsValue? acc cs).bind (hexDigitsValue? · ds) := by
  fun_induction hexDigitsValue? acc cs with
  | case1 acc => rfl
  | case2 acc cs ih => exact ih
  | case3 acc c cs hc ih =>
    rw [List.cons_append, hexDigitsValue?.eq_3 _ _ _ hc]
    cases hexDigitValue? c with
    | none => rfl
    | some d => exact ih d

theorem hexDigitsValue?_singleton (h : hexDigitValue? c = some d) :
    hexDigitsValue? acc [c] = some (16 * acc + d) := by
  have hgap : c = '_' → False := by
    rintro rfl
    cases h
  rw [hexDigitsValue?.eq_3 _ _ _ hgap, h]
  rfl

theorem hexDigitsValue?_zeros (k : Nat) : hexDigitsValue? 0 (List.replicate k '0') = some 0 := by
  induction k with
  | zero => rfl
  | succ k ih => exact ih

/-- The digits of a number in either case are hexadecimal and have the number as their value. -/
theorem digits_read (h : ds.map Char.toLower = Nat.toDigits 16 n) :
    IsHex ds ∧ hexDigitsValue? 0 ds = some n := by
  induction n using Nat.strongRecOn generalizing ds with
  | ind n ih =>
    rw [Nat.toDigits_eq_if (by omega)] at h
    split at h
    next hlt =>
      obtain ⟨c, rfl, hc⟩ := List.map_eq_singleton_iff.1 h
      have hvalue := hexDigitValue?_of_toLower hlt hc
      exact ⟨isHex_singleton hvalue, by simp [hexDigitsValue?_singleton hvalue]⟩
    next hge =>
      obtain ⟨front, last, rfl, hfront, hlast⟩ := List.map_eq_append_iff.1 h
      obtain ⟨c, rfl, hc⟩ := List.map_eq_singleton_iff.1 hlast
      have hvalue := hexDigitValue?_of_toLower (Nat.mod_lt n (by omega)) hc
      obtain ⟨hhex, hread⟩ := ih (n / 16) (by omega) hfront
      refine ⟨isHex_append.2 ⟨hhex, isHex_singleton hvalue⟩, ?_⟩
      rw [hexDigitsValue?_append, hread, Option.bind_some, hexDigitsValue?_singleton hvalue,
        Nat.div_add_mod]

/-- Of hexadecimal digits, marked or not, nothing is taken off but the mark. -/
theorem readHexDigits_marked {mark : List Char} (hmark : mark ∈ [[], ['0', 'x'], ['0', 'X']])
    (hne : cs ≠ []) (h : IsHex cs) :
    readHexDigits (withoutPlus (withoutHexMark (mark ++ cs))) = hexDigitsValue? 0 cs := by
  have hmarkless : withoutHexMark (mark ++ cs) = cs := by
    simp only [List.mem_cons, List.not_mem_nil, or_false] at hmark
    obtain rfl | rfl | rfl := hmark
    · rw [List.nil_append]
      unfold withoutHexMark
      split
      next => exact absurd (h 'x' (by simp)) (by decide)
      next => exact absurd (h 'X' (by simp)) (by decide)
      next => rfl
    · rfl
    · rfl
  obtain ⟨c, cs, rfl⟩ := List.exists_cons_of_ne_nil hne
  have hplus : c ≠ '+' := fun hc => absurd (h c List.mem_cons_self) (by rw [hc]; decide)
  have hgap : c ≠ '_' := fun hc => absurd (h c List.mem_cons_self) (by rw [hc]; decide)
  simp [hmarkless, withoutPlus, readHexDigits, hplus, hgap]

end Digits

/-! ## Spellings -/

/-- A way to spell a number in base sixteen. -/
structure Spelling (n : Nat) where
  before : List Char
  mark : List Char
  /-- How many zeros stand before the digits. -/
  zeros : Nat
  digits : List Char
  after : List Char
  before_blank : ∀ c ∈ before, Text.isBlank c = true
  mark_mem : mark ∈ [[], ['0', 'x'], ['0', 'X']]
  /-- The digits are those of the number, each in the one case or the other. -/
  digits_toLower : digits.map Char.toLower = Nat.toDigits 16 n
  after_blank : ∀ c ∈ after, Text.isBlank c = true

namespace Spelling

variable {n e : Nat}

/-- The digits with the zeros before them. -/
def numeral (s : Spelling n) : List Char := List.replicate s.zeros '0' ++ s.digits

/-- The text of a spelling. -/
def text (s : Spelling n) : String :=
  String.ofList (s.before ++ (s.mark ++ s.numeral) ++ s.after)

theorem isHex_numeral (s : Spelling n) : IsHex s.numeral :=
  isHex_append.2 ⟨isHex_zeros s.zeros, (digits_read s.digits_toLower).1⟩

theorem hexDigitsValue?_numeral (s : Spelling n) : hexDigitsValue? 0 s.numeral = some n := by
  rw [numeral, hexDigitsValue?_append, hexDigitsValue?_zeros]
  exact (digits_read s.digits_toLower).2

theorem numeral_ne_nil (s : Spelling n) : s.numeral ≠ [] := by
  have hdigits : s.digits ≠ [] := fun hnil => by
    have hdenoted := s.digits_toLower
    rw [hnil] at hdenoted
    exact Nat.toDigits_ne_nil hdenoted.symm
  simp [numeral, hdigits]

theorem isSolid_marked (s : Spelling n) : Text.IsSolid (s.mark ++ s.numeral) := by
  have hmark : ∀ mark ∈ [[], ['0', 'x'], ['0', 'X']], Text.IsSolid mark := by decide
  exact Text.isSolid_append.2 ⟨hmark _ s.mark_mem, s.isHex_numeral.isSolid⟩

/-- Every spelling of a number reads as that number. -/
theorem readHex_text (s : Spelling n) : readHex s.text.toList = some n := by
  rw [text, String.toList_ofList, readHex, s.isSolid_marked.trim s.before_blank s.after_blank,
    readHexDigits_marked s.mark_mem s.numeral_ne_nil s.isHex_numeral, s.hexDigitsValue?_numeral]

/-- A key, or what is wrong with it, hangs on the two numbers, however they are spelled. -/
theorem ofNumbers_eq (modulus : Spelling n) (exponent : Spelling e) (pem : Option String) :
    OfferedKey.ofNumbers ⟨pem, modulus.text, exponent.text⟩ =
      (RsaKey.ofNumbers n e).mapError .key := by
  simp [OfferedKey.ofNumbers, readHex_text]

end Spelling

/-! ## Encryption -/

/-- The password encrypted with a key, in base64. -/
def RsaKey.encryptPassword (key : RsaKey) (filler : Filler) (password : String) :
    Except PasswordFault String :=
  match key.encrypt filler password.toUTF8.data.toList with
  | some cipher => .ok (String.ofList (Base64.encode cipher))
  | none => .error .tooLong

namespace OfferedKey

theorem encrypt_eq (offer : OfferedKey) (filler : Filler) (password : String) :
    offer.encrypt filler password =
      offer.key.bind (·.encryptPassword filler password) := by
  rfl

variable {offer : OfferedKey} {key : RsaKey} {cause : NumberFault} {pem : String}
variable {filler : Filler} {password : String}

/-- The key of the two numbers encrypts the password, whatever the armoured text is. -/
theorem encrypt_of_ofNumbers (h : offer.ofNumbers = .ok key) :
    offer.encrypt filler password = key.encryptPassword filler password := by
  rw [encrypt_eq, OfferedKey.key, h]
  rfl

/-- In place of two numbers that are no key the armoured text counts, if it is one. -/
theorem encrypt_of_ofPem (h : offer.ofNumbers = .error cause) (hpem : offer.pem = some pem)
    (hkey : ofPem pem = .ok key) :
    offer.encrypt filler password = key.encryptPassword filler password := by
  have hoffer : offer.key = .ok key := by simp [OfferedKey.key, h, hpem, hkey]
  rw [encrypt_eq, hoffer]
  rfl

theorem encrypt_of_numbers (h : offer.ofNumbers = .error cause) (hpem : offer.pem = none) :
    offer.encrypt filler password = .error (.numbers cause) := by
  have hoffer : offer.key = .error (.numbers cause) := by simp [OfferedKey.key, h, hpem]
  rw [encrypt_eq, hoffer]
  rfl

theorem encrypt_of_numbersAndPem (h : offer.ofNumbers = .error cause) (hpem : offer.pem = some pem)
    {fault : PemFault} (hkey : ofPem pem = .error fault) :
    offer.encrypt filler password = .error (.numbersAndPem cause fault) := by
  have hoffer : offer.key = .error (.numbersAndPem cause fault) := by
    simp [OfferedKey.key, h, hpem, hkey]
  rw [encrypt_eq, hoffer]
  rfl

end OfferedKey

/--
All spellings of a number read as that number, so two offers that spell the same numbers offer the
same key, or have the same fault in them. If the two numbers are a key, what becomes of a password
is the same whatever the armoured text is. If they are no key, it is what the key of the armoured
text makes of it, and with no such key the fault of the numbers, that of an armoured text behind it
in whatever words that is told.
-/
theorem key_chosen :
    (∀ {n : Nat} (s : Spelling n), readHex s.text.toList = some n) ∧
    (∀ {n e : Nat} (modulus : Spelling n) (exponent : Spelling e) (pem : Option String),
      OfferedKey.ofNumbers ⟨pem, modulus.text, exponent.text⟩ =
        (RsaKey.ofNumbers n e).mapError .key) ∧
    ∀ (offer : OfferedKey) (filler : Filler) (password : String)
      (describe : PemFault → String),
      (∀ key, offer.ofNumbers = .ok key → ∀ pem : Option String,
        { offer with pem }.encrypt filler password = key.encryptPassword filler password) ∧
      ∀ cause, offer.ofNumbers = .error cause →
        (∀ pem key, OfferedKey.ofPem pem = .ok key →
          { offer with pem := some pem }.encrypt filler password =
            key.encryptPassword filler password) ∧
        (∃ fault, { offer with pem := none }.encrypt filler password = .error fault ∧
          fault.message describe = cause.message) ∧
        (∀ pem pemFault, OfferedKey.ofPem pem = .error pemFault → ∃ fault,
          { offer with pem := some pem }.encrypt filler password = .error fault ∧
          fault.message describe = cause.message ++ "; " ++
            "Failed to parse RSA public key PEM: " ++ describe pemFault) := by
  refine ⟨fun s => s.readHex_text, fun modulus exponent pem => modulus.ofNumbers_eq exponent pem,
    fun offer filler password describe =>
      ⟨fun key hkey pem => ?_, fun cause hcause => ⟨?_, ?_, ?_⟩⟩⟩
  · exact OfferedKey.encrypt_of_ofNumbers hkey
  · exact fun pem key hkey => OfferedKey.encrypt_of_ofPem hcause rfl hkey
  · exact ⟨_, OfferedKey.encrypt_of_numbers hcause rfl, rfl⟩
  · intro pem pemFault hpem
    have hfault := @OfferedKey.encrypt_of_numbersAndPem { offer with pem := some pem } cause pem
      filler password hcause rfl pemFault hpem
    refine ⟨_, hfault, ?_⟩
    simp [PasswordFault.message, String.append_assoc]

/-- An odd spelling of a key, and numbers that are no key, with and without a key in the armour. -/
theorem key_chosen_odd :
    let modulus : Spelling 171 :=
      { before := [' '], mark := ['0', 'X'], zeros := 2, digits := ['A', 'b'], after := ['\n']
        before_blank := List.forall_mem_singleton.2 rfl, mark_mem := .tail _ (.tail _ (.head _))
        digits_toLower := rfl, after_blank := List.forall_mem_singleton.2 rfl }
    let exponent : Spelling 3 :=
      { before := [], mark := [], zeros := 0, digits := ['3'], after := []
        before_blank := List.forall_mem_nil _, mark_mem := .head _
        digits_toLower := rfl, after_blank := List.forall_mem_nil _ }
    let pem := "-----BEGIN RSA PUBLIC KEY-----\nMAcCAgCrAgED\n-----END RSA PUBLIC KEY-----\n"
    let odd : OfferedKey := ⟨some "no key", modulus.text, exponent.text⟩
    let broken : OfferedKey := ⟨some pem, "zz", "3"⟩
    let filler : Filler := ⟨fun _ => 1, fun _ => by decide⟩
    modulus.text = " 0X00Ab\n" ∧ odd.ofNumbers = .ok ⟨171, 3⟩ ∧
      broken.ofNumbers = .error (.modulus "zz") ∧ OfferedKey.ofPem pem = .ok ⟨171, 3⟩ ∧
      broken.encrypt filler "secret" = odd.encrypt filler "secret" ∧
      OfferedKey.ofPem "no key" = .error .unreadable ∧
      ∀ describe, ∃ fault,
        { broken with pem := some "no key" }.encrypt filler "secret" = .error fault ∧
        fault.message describe = (NumberFault.modulus "zz").message ++ "; " ++
          "Failed to parse RSA public key PEM: " ++ describe .unreadable := by
  intro modulus exponent pem odd broken filler
  obtain ⟨-, hnumbers, hchosen⟩ := key_chosen
  have hodd : odd.ofNumbers = .ok ⟨171, 3⟩ := hnumbers modulus exponent (some "no key")
  have hunread : readHex "zz".toList = none := by decide
  have hbroken : broken.ofNumbers = .error (.modulus "zz") := by
    rw [OfferedKey.ofNumbers, hunread]
  have hread : Pem.readKey pem.toList = some (171, 3) := by decide +kernel
  have hpem : OfferedKey.ofPem pem = .ok ⟨171, 3⟩ := by
    rw [OfferedKey.ofPem, hread]
    rfl
  have hnone : OfferedKey.ofPem "no key" = .error .unreadable := by
    have hread : Pem.readKey "no key".toList = none := by decide
    rw [OfferedKey.ofPem, hread]
  refine ⟨rfl, hodd, hbroken, hpem, ?_, hnone, fun describe => ?_⟩
  · obtain ⟨hnumbers, -⟩ := hchosen odd filler "secret" fun _ => ""
    obtain ⟨-, hinstead⟩ := hchosen broken filler "secret" fun _ => ""
    obtain ⟨harmour, -⟩ := hinstead _ hbroken
    exact (harmour _ _ hpem).trans (hnumbers _ hodd (some "no key")).symm
  · obtain ⟨-, hinstead⟩ := hchosen broken filler "secret" describe
    obtain ⟨-, -, hneither⟩ := hinstead _ hbroken
    exact hneither _ _ hnone

end ExasolClient.Crypto
