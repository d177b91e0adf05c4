import PlayerAccounts.Text.Blank
import PlayerAccounts.Text.Utf8
/-!
# Texts of ASCII

A character of ASCII is its own byte, and U+0000 alone has a zero byte. One text begins another if its bytes
do. Blanks on both sides of a text are cut away, and the text is left.
-/
namespace PlayerAccounts.Text
set_option autoImplicit false

/-! ## Bytes -/

theorem utf8Size_of_ascii {c : Char} (hc : c.toNat < 128) : c.utf8Size = 1 := by
  rw [Char.utf8Size_eq_one_iff, UInt32.le_iff_toNat_le]
  exact Nat.le_of_lt_succ hc

theorem utf8Bytes_of_ascii {s : List Char} (hs : ∀ c ∈ s, c.toNat < 128) :
    utf8Bytes s = s.map Char.toUInt8 := by
  induction s with
  | nil => rfl
  | cons c s ih =>
    have hc : c.toNat < 128 := hs c List.mem_cons_self
    have hrest : utf8Bytes s = s.map Char.toUInt8 :=
      ih fun d hd => hs d (List.mem_cons_of_mem c hd)
    have hcons : utf8Bytes (c :: s) = String.utf8EncodeChar c ++ utf8Bytes s := List.flatMap_cons
    rw [hcons, String.utf8EncodeChar_eq_singleton (utf8Size_of_ascii hc), hrest]
    rfl

theorem utf8ByteSize_eq (s : String) : s.utf8ByteSize = (utf8Bytes s.toList).length := by
  rw [← String.size_toByteArray, ← String.ofList_toList (s := s), String.toByteArray_ofList,
    String.toList_ofList]
  exact List.size_toByteArray

/-- Different texts have different bytes. -/
theorem utf8Bytes_inj {s s' : List Char} : utf8Bytes s = utf8Bytes s' ↔ s = s' := by
  constructor
  · intro he
    have hb : s.utf8Encode = s'.utf8Encode := congrArg List.toByteArray he
    rw [← String.toByteArray_ofList, ← String.toByteArray_ofList, String.toByteArray_inj] at hb
    exact String.ofList_injective hb
  · rintro rfl
    rfl

theorem utf8Bytes_append (s t : List Char) : utf8Bytes (s ++ t) = utf8Bytes s ++ utf8Bytes t :=
  List.flatMap_append

/-- Where the bytes of one text begin those of another, the text itself does. -/
theorem isPrefix_of_utf8Bytes {s t : List Char} (h : utf8Bytes s <+: utf8Bytes t) : s <+: t := by
  obtain ⟨rest, hrest⟩ := h
  have hb : (utf8Bytes s ++ rest).toByteArray = (utf8Bytes t).toByteArray := congrArg List.toByteArray hrest
  rw [List.toByteArray_append] at hb
  exact List.isPrefix_of_utf8Encode_append_eq_utf8Encode _ hb

theorem eq_zero_of_mem_utf8EncodeChar {c : Char} (h : 0 ∈ String.utf8EncodeChar c) : c = '\x00' := by
  have hzero (n : Nat) : (0 : UInt8) = UInt8.ofNat n ↔ n % 256 = 0 := by
    rw [← UInt8.toNat_inj, UInt8.toNat_ofNat']
    exact eq_comm
  have hval : c.val.toNat = 0 := by
    -- A byte of a character that has several is marked by its upper bits.
    simp only [String.utf8EncodeChar] at h
    split at h
    · rw [List.mem_singleton, hzero] at h
      omega
    · split at h
      · simp only [List.mem_cons, List.not_mem_nil, or_false, hzero] at h
        omega
      · split at h <;> simp only [List.mem_cons, List.not_mem_nil, or_false, hzero] at h <;> omega
  exact Char.ext (UInt32.toNat_inj.mp hval)

theorem zero_mem_utf8Bytes {s : List Char} : 0 ∈ utf8Bytes s ↔ '\x00' ∈ s := by
  rw [utf8Bytes, List.mem_flatMap]
  constructor
  · rintro ⟨c, hc, hzero⟩
    rwa [← eq_zero_of_mem_utf8EncodeChar hzero]
  · intro hs
    exact ⟨_, hs, by decide⟩

theorem utf8ByteSize_of_ascii {s : String} (hs : ∀ c ∈ s.toList, c.toNat < 128) :
    s.utf8ByteSize = s.length := by
  rw [utf8ByteSize_eq, utf8Bytes_of_ascii hs, List.length_map, String.length_toList]

theorem toNat_byte_of_ascii {c : Char} (hc : c.toNat < 128) : c.toUInt8.toNat = c.toNat := by
  have hmod : c.toUInt8.toNat = c.toNat % 256 := UInt32.toNat_toUInt8 c.val
  rw [hmod]
  omega

/-! ## Blanks around a text -/

/-- A text that neither begins nor ends with a blank. -/
structure Trimmed (s : List Char) : Prop where
  first : ∀ c, s.head? = some c → isBlank c = false
  last : ∀ c, s.getLast? = some c → isBlank c = false

theorem dropWhile_blanks {pad s : List Char} (hpad : ∀ c ∈ pad, isBlank c = true)
    (hs : ∀ c, s.head? = some c → isBlank c = false) : (pad ++ s).dropWhile isBlank = s := by
  rw [List.dropWhile_append_of_pos hpad]
  cases s with
  | nil => rfl
  | cons c s =>
    have hc : isBlank c = false := hs c rfl
    exact List.dropWhile_cons_of_neg (by rw [hc]; exact Bool.false_ne_true)

theorem trim_padded {before s after : List Char} (hbefore : ∀ c ∈ before, isBlank c = true)
    (hafter : ∀ c ∈ after, isBlank c = true) (hs : Trimmed s) (hne : s ≠ []) :
    trim (before ++ (s ++ after)) = s := by
  have hfirst : ∀ c, (s ++ after).head? = some c → isBlank c = false := by
    intro c hc
    obtain ⟨d, rest, rfl⟩ := List.exists_cons_of_ne_nil hne
    exact hs.first c hc
  have hlast : ∀ c, s.reverse.head? = some c → isBlank c = false := by
    intro c hc
    rw [List.head?_reverse] at hc
    exact hs.last c hc
  have hreverse : ∀ c ∈ after.reverse, isBlank c = true := fun c hc => hafter c (List.mem_reverse.mp hc)
  rw [trim, trimStart, dropWhile_blanks hbefore hfirst, trimEnd, List.reverse_append,
    dropWhile_blanks hreverse hlast, List.reverse_reverse]

end PlayerAccounts.Text
