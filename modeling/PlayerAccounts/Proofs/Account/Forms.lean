import PlayerAccounts.Proofs.Account.Secrets
/-!
# Forms of stored texts

What texts look like that pass the rules, are drawn, or come out of sealing a password.
-/
namespace PlayerAccounts.Account
set_option autoImplicit false

open PlayerAccounts.Text

/-! ## Drawn texts -/

theorem all_lowDigits {alphabet : List Char} {p : Char → Bool} (hne : alphabet ≠ [])
    (hall : alphabet.all p = true) (count n : Nat) : (lowDigits alphabet count n).all p = true :=
  List.all_eq_true.mpr fun c hc => List.all_eq_true.mp hall c (mem_of_mem_lowDigits hne hc)

theorem isToken_drawnToken (n : Nat) : isToken (drawnToken n) = true := by
  rw [isToken, drawnToken, String.length_ofList, String.toList_ofList, length_lowDigits, beq_self_eq_true,
    Bool.true_and]
  exact all_lowDigits (by decide +kernel) (by decide +kernel) _ _

theorem isUserId_drawnUserId (n : Nat) : isUserId (drawnUserId n) = true := by
  have hhex (count m : Nat) : (lowDigits hexadecimals count m).all isHexadecimal = true :=
    all_lowDigits (by decide +kernel) (by decide +kernel) count m
  have hvariant (m : Nat) : (lowDigits variantDigits 1 m).all isHexadecimal = true :=
    all_lowDigits (by decide) (by decide) 1 m
  have hchoice (m : Nat) : (lowDigits variantDigits 1 m)[0]?.any variantDigits.contains = true := by
    have hall : (lowDigits variantDigits 1 m).all variantDigits.contains = true :=
      all_lowDigits (by decide) (by decide) 1 m
    rwa [lowDigits, lowDigits, List.all_cons, List.all_nil, Bool.and_true] at hall
  have hlength : (drawnUserId n).length = 32 := by
    simp only [drawnUserId, String.length_ofList, List.length_append, List.length_cons, length_lowDigits]
  have hall : (drawnUserId n).toList.all isHexadecimal = true := by
    simp only [drawnUserId, String.toList_ofList, List.all_append, List.all_cons, hhex, hvariant,
      Bool.and_true]
    decide
  -- The places of the version and the variant do not depend on what the other digits are.
  have hversion : (drawnUserId n).toList[12]? = some '4' := by
    rw [drawnUserId, String.toList_ofList]
    rfl
  have hdigit : (drawnUserId n).toList[16]? = (lowDigits variantDigits 1 (n / Nat.pow 16 15))[0]? := by
    rw [drawnUserId, String.toList_ofList]
    rfl
  rw [isUserId, hlength, hall, hversion, hdigit, hchoice]
  rfl

theorem length_of_isUserId {id : String} (h : isUserId id = true) : id.length = 32 := by
  simp only [isUserId, Bool.and_eq_true, beq_iff_eq] at h
  exact h.1.1.1

theorem length_of_isToken {token : String} (h : isToken token = true) : token.length = 64 := by
  simp only [isToken, Bool.and_eq_true, beq_iff_eq] at h
  exact h.1

theorem length_of_isSalt {salt : String} (h : isSalt salt = true) : salt.length = 16 := by
  simp only [isSalt, Bool.and_eq_true, beq_iff_eq] at h
  exact h.1

/-! ## Texts that pass the rules -/

theorem length_le_utf8ByteSize (s : String) : s.length ≤ s.utf8ByteSize := by
  rw [utf8ByteSize_eq, utf8Bytes, List.length_flatMap, ← String.length_toList]
  induction s.toList with
  | nil => exact Nat.le_refl 0
  | cons c s ih =>
    have hc : 1 ≤ (String.utf8EncodeChar c).length := by
      rw [String.length_utf8EncodeChar]
      exact c.utf8Size_pos
    rw [List.length_cons, List.map_cons, List.sum_cons]
    omega

/-- The form of a login. -/
structure IsLogin (login : String) : Prop where
  nonempty : 1 ≤ login.length
  short : login.length ≤ 32
  characters : ∀ c ∈ login.toList, isLoginCharacter c = true

/-- The form of an email. What stands in front of the at sign has none itself. -/
structure IsEmail (email : String) : Prop where
  short : email.length ≤ 255
  unblank : ∀ c ∈ email.toList, isBlank c = false
  parts : ∃ name domain, email.toList = name ++ '@' :: domain ∧ name ≠ [] ∧ '@' ∉ name ∧ '.' ∈ domain

theorem toNat_of_isLoginCharacter {c : Char} (hc : isLoginCharacter c = true) : c.toNat < 128 := by
  simp only [isLoginCharacter, Bool.or_eq_true, beq_iff_eq] at hc
  rcases hc with ((hc | rfl) | rfl) | rfl
  · exact toNat_of_isAlphanumeric hc
  · decide
  · decide
  · decide

theorem isLogin_of_unbroken {login : String} (h : brokenByLogin? login = none) : IsLogin login := by
  unfold brokenByLogin? at h
  split at h
  · cases h
  rename_i hlen
  split at h
  · rename_i hall
    rw [List.all_eq_true] at hall
    have hbytes : login.utf8ByteSize = login.length :=
      utf8ByteSize_of_ascii fun c hc => toNat_of_isLoginCharacter (hall c hc)
    unfold maxLoginBytes at hlen
    exact ⟨by omega, by omega, hall⟩
  · cases h

theorem parts_of_hasDomain {s : List Char} (h : hasDomain s = true) :
    ∃ name domain, s = name ++ '@' :: domain ∧ name ≠ [] ∧ '@' ∉ name ∧ '.' ∈ domain := by
  have hsplit : s.takeWhile (· != '@') ++ s.dropWhile (· != '@') = s := List.takeWhile_append_dropWhile
  have hname : '@' ∉ s.takeWhile (· != '@') := fun hm => by
    have hno := List.all_eq_true.mp (List.all_takeWhile (p := (· != '@')) (l := s)) '@' hm
    simp at hno
  unfold hasDomain at h
  cases hrest : s.dropWhile (· != '@') with
  | nil => rw [hrest] at h; cases h
  | cons c domain =>
    rw [hrest] at h hsplit
    have hat : c = '@' := by
      have hfirst := List.head?_dropWhile_not (· != '@') s
      rw [hrest] at hfirst
      simpa using hfirst
    simp only [Bool.and_eq_true, Bool.not_eq_true', List.isEmpty_eq_false_iff, List.contains_iff_mem] at h
    rw [hat] at hsplit
    exact ⟨_, domain, hsplit.symm, h.1, hname, h.2⟩

theorem isEmail_of_unbroken {email : String} (h : brokenByEmail? email = none) : IsEmail email := by
  unfold brokenByEmail? at h
  split at h
  · rename_i hall
    obtain ⟨hlen, hblank, hdomain⟩ := hall
    simp only [Bool.not_eq_true', List.any_eq_false, Bool.not_eq_true] at hblank
    exact ⟨Nat.le_trans (length_le_utf8ByteSize email) hlen, hblank, parts_of_hasDomain hdomain⟩
  · cases h

/-! ## Hashes -/

/-- A character that is neither blank nor a control character. -/
def isPrintable (c : Char) : Bool := 32 < c.toNat && c.toNat < 127

/-- The form of a hash that was made with this salt. -/
structure IsHashWith (salt hash : String) : Prop where
  length : hash.length = 60
  printable : ∀ c ∈ hash.toList, isPrintable c = true
  version : hash.toList.take 4 = ['$', '2', 'b', '$']
  cost : ∀ c ∈ (hash.toList.drop 4).take 2, c.isDigit = true
  salt : (hash.toList.drop 7).take 22 = Bcrypt.encode64 (bytesOf salt)

theorem length_encode64 (bytes : List UInt8) :
    (Bcrypt.encode64 bytes).length = (bytes.length * 8 + 5) / 6 := by
  fun_induction Bcrypt.encode64 bytes with
  | case1 a b c rest n ih =>
    simp only [List.length_cons, ih]
    omega
  | case2 a b n => simp only [List.length_cons, List.length_nil]
  | case3 a n => simp only [List.length_cons, List.length_nil]
  | case4 => rfl

theorem digit64_inj {m n : Nat} : Bcrypt.digit64 m = Bcrypt.digit64 n ↔ m % 64 = n % 64 := by
  have hall : ∀ k < 64, Bcrypt.alphabet.idxOf (Bcrypt.digit64 k) = k := by decide +kernel
  have hmod (k : Nat) : Bcrypt.digit64 (k % 64) = Bcrypt.digit64 k := by
    rw [Bcrypt.digit64, Nat.mod_mod, Bcrypt.digit64]
  have hplace (k : Nat) : Bcrypt.alphabet.idxOf (Bcrypt.digit64 k) = k % 64 := by
    rw [← hmod]
    exact hall _ (Nat.mod_lt k (by decide))
  constructor
  · intro h
    rw [← hplace m, h, hplace]
  · intro h
    rw [← hmod m, h, hmod]

theorem encode64_inj {a b : List UInt8} : Bcrypt.encode64 a = Bcrypt.encode64 b ↔ a = b := by
  constructor
  · intro h
    have hlen : a.length = b.length := by
      have hchars := congrArg List.length h
      rw [length_encode64, length_encode64] at hchars
      omega
    -- The digits of a group give back the number that it stands for, and this gives back its bytes.
    induction a using Bcrypt.encode64.induct generalizing b with
    | case1 x y z rest ih =>
      match b, hlen with
      | x' :: y' :: z' :: rest', hlen =>
        simp only [Bcrypt.encode64, List.cons.injEq, digit64_inj] at h
        obtain ⟨h₁, h₂, h₃, h₄, hrest⟩ := h
        have := x.toNat_lt
        have := y.toNat_lt
        have := z.toNat_lt
        have := x'.toNat_lt
        have := y'.toNat_lt
        have := z'.toNat_lt
        have hx : x = x' := UInt8.toNat_inj.mp (by omega)
        have hy : y = y' := UInt8.toNat_inj.mp (by omega)
        have hz : z = z' := UInt8.toNat_inj.mp (by omega)
        have htail : rest = rest' := ih hrest (Nat.add_right_cancel (m := 3) hlen)
        rw [hx, hy, hz, htail]
    | case2 x y =>
      match b, hlen with
      | [x', y'], _ =>
        simp only [Bcrypt.encode64, List.cons.injEq, digit64_inj] at h
        have := x.toNat_lt
        have := y.toNat_lt
        have := x'.toNat_lt
        have := y'.toNat_lt
        have hx : x = x' := UInt8.toNat_inj.mp (by omega)
        have hy : y = y' := UInt8.toNat_inj.mp (by omega)
        rw [hx, hy]
    | case3 x =>
      match b, hlen with
      | [x'], _ =>
        simp only [Bcrypt.encode64, List.cons.injEq, digit64_inj] at h
        have := x.toNat_lt
        have := x'.toNat_lt
        have hx : x = x' := UInt8.toNat_inj.mp (by omega)
        rw [hx]
    | case4 => exact (List.length_eq_zero_iff.mp hlen.symm).symm
  · rintro rfl
    rfl

theorem isPrintable_digit64 (n : Nat) : isPrintable (Bcrypt.digit64 n) = true := by
  have hall : Bcrypt.alphabet.all isPrintable = true := by decide +kernel
  have hlt : n % 64 < Bcrypt.alphabet.length := Nat.mod_lt n (by decide)
  rw [Bcrypt.digit64, List.getD_eq_getElem?_getD, List.getElem?_eq_getElem hlt, Option.getD_some]
  exact List.all_eq_true.mp hall _ (List.getElem_mem hlt)

theorem all_encode64 (bytes : List UInt8) : (Bcrypt.encode64 bytes).all isPrintable = true := by
  fun_induction Bcrypt.encode64 bytes with
  | case1 a b c rest n ih => simp only [List.all_cons, isPrintable_digit64, ih, Bool.and_self]
  | case2 a b n => simp only [List.all_cons, List.all_nil, isPrintable_digit64, Bool.and_self]
  | case3 a n => simp only [List.all_cons, List.all_nil, isPrintable_digit64, Bool.and_self]
  | case4 => rfl

theorem all_costText {cost : Nat} (hc : isCost cost = true) :
    (Bcrypt.costText cost).all isPrintable = true ∧ (Bcrypt.costText cost).all Char.isDigit = true := by
  have hall : ∀ n < 32,
      (Bcrypt.costText n).all isPrintable = true ∧ (Bcrypt.costText n).all Char.isDigit = true := by decide
  exact hall cost (by have := (isCost_iff cost).mp hc; omega)

section Tail
variable (cost : Nat) (password : List UInt8) {salt : List UInt8}

theorem length_tail (hs : salt.length = 16) : (Bcrypt.tail cost password salt).length = 53 := by
  rw [Bcrypt.tail, List.length_append, length_encode64, length_encode64, List.length_take,
    Bcrypt.length_digest, hs]
  decide

theorem take_tail (hs : salt.length = 16) :
    (Bcrypt.tail cost password salt).take 22 = Bcrypt.encode64 salt := by
  have hlen : (Bcrypt.encode64 salt).length = 22 := by rw [length_encode64, hs]
  rw [Bcrypt.tail, ← hlen, List.take_left]

theorem all_tail : (Bcrypt.tail cost password salt).all isPrintable = true := by
  rw [Bcrypt.tail, List.all_append, all_encode64, all_encode64]
  rfl

end Tail

theorem isHashWith_of_hashPassword {cost : Nat} {password salt hash : String}
    (h : hashPassword cost password salt = .ok hash) : IsHashWith salt hash := by
  obtain ⟨-, hsalt, hcost, rfl⟩ := hashPassword_ok_iff.mp h
  have hbytes : (bytesOf salt).length = 16 := (length_bytesOf salt).trans hsalt
  obtain ⟨hprintable, hdigits⟩ := all_costText hcost
  constructor
  · rw [String.length_ofList, Bcrypt.hashText]
    simp only [List.length_append, List.length_cons, length_tail cost _ hbytes, Bcrypt.costText,
      List.length_nil]
  · rw [String.toList_ofList, ← List.all_eq_true, Bcrypt.hashText]
    simp only [List.all_append, List.all_cons, hprintable, all_tail, Bool.and_true]
    decide
  · rw [String.toList_ofList]
    rfl
  · rw [String.toList_ofList]
    exact List.all_eq_true.mp hdigits
  · rw [String.toList_ofList]
    exact take_tail cost _ hbytes

end PlayerAccounts.Account
