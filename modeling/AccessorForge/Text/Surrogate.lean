/-! Unpaired surrogates. A text may hold half of a surrogate pair alone, which is no character; it is carried
as two characters, the noncharacter U+10FFFF and a private one that tells which half it is. -/
namespace AccessorForge.Text.Surrogate

def mark : Char := Char.ofNat 0x10FFFF

def isSurrogate (n : Nat) : Bool := 0xD800 ≤ n && n ≤ 0xDFFF

/-- Where the private characters start that stand behind a mark. -/
def privateStart : Nat := 0x100000

/-- The text of one code point, which is at most U+10FFFF. -/
def ofCode (n : Nat) : List Char :=
  if isSurrogate n then [mark, Char.ofNat (privateStart + (n - 0xD800))] else [Char.ofNat n]

/-- The half that a character behind a mark stands for. -/
def half? (c : Char) : Option Nat :=
  if privateStart ≤ c.toNat && c.toNat < privateStart + 0x800 then some (0xD800 + (c.toNat - privateStart))
  else none

inductive Element
  | char (c : Char)
  | half (code : Nat)
  deriving DecidableEq, Repr

def Element.isHalf : Element → Bool
  | .half _ => true
  | .char _ => false

def elements : List Char → List Element
  | [] => []
  | [c] => [.char c]
  | a :: b :: rest =>
    match if a = mark then half? b else none with
    | some n => .half n :: elements rest
    | none => .char a :: elements (b :: rest)

def Element.code : Element → Nat
  | .char c => c.toNat
  | .half n => n

def codes (s : String) : List Nat := (elements s.toList).map Element.code

/-- Whether a text holds half of a pair alone, for which an encoding has no room. -/
def areBroken (cs : List Char) : Bool := cs.contains mark && (elements cs).any Element.isHalf

def isBroken (s : String) : Bool := areBroken s.toList

/-- Every half is spelled out in hexadecimal digits. -/
def Element.spelled : Element → List Char
  | .char c => [c]
  | .half n => '\\' :: 'u' :: Nat.toDigits 16 n

def spelled (s : String) : String :=
  if isBroken s then String.ofList ((elements s.toList).flatMap Element.spelled) else s

/-- Every half shown as the replacement character. -/
def readable (s : String) : String :=
  if isBroken s then String.ofList ((elements s.toList).map fun e =>
    match e with
    | .char c => c
    | .half _ => '\uFFFD')
  else s

/-- Halves that stand for single bytes in the names of files. -/
def isByteHalf (n : Nat) : Bool := 0xDC80 ≤ n && n ≤ 0xDCFF

theorem toNat_ofNat {n : Nat} (h : n.isValidChar) : (Char.ofNat n).toNat = n := by
  rw [Char.ofNat, dif_pos h]
  rfl

theorem half?_ofNat {d : Nat} (h : d < 0x800) : half? (Char.ofNat (privateStart + d)) = some (0xD800 + d) := by
  have hv : (privateStart + d).isValidChar := by
    simp only [privateStart, Nat.isValidChar]
    omega
  rw [half?, toNat_ofNat hv, if_pos, Nat.add_sub_cancel_left]
  simp [h]

theorem elements_ofCode {n : Nat} (h : isSurrogate n = true) (rest : List Char) :
    elements (ofCode n ++ rest) = .half n :: elements rest := by
  have hr : 0xD800 ≤ n ∧ n ≤ 0xDFFF := by simpa [isSurrogate] using h
  have hd : n - 0xD800 < 0x800 := by omega
  have hn : 0xD800 + (n - 0xD800) = n := by omega
  rw [ofCode, if_pos h, List.cons_append, List.cons_append, elements, if_pos rfl, half?_ofNat hd, hn]
  rfl

theorem elements_of_noMark {cs : List Char} (h : ∀ c ∈ cs, c ≠ mark) : elements cs = cs.map .char := by
  fun_induction elements cs with
  | case1 => rfl
  | case2 => rfl
  | case3 a b rest n hn ih => simp [h a (by simp)] at hn
  | case4 a b rest hn ih => rw [ih fun c hc => h c (by simp [hc])]; rfl

/-- A mark and the private character behind it are the text of the half that they stand for. -/
theorem ofCode_half {c : Char} {n : Nat} (stands : half? c = some n) : ofCode n = [mark, c] := by
  unfold half? at stands
  split at stands
  · rename_i range
    have range : privateStart ≤ c.toNat ∧ c.toNat < privateStart + 0x800 := by simpa using range
    obtain rfl := Option.some.inj stands
    have surrogate : isSurrogate (0xD800 + (c.toNat - privateStart)) = true := by
      simp [isSurrogate]
      omega
    have same : privateStart + (0xD800 + (c.toNat - privateStart) - 0xD800) = c.toNat := by omega
    rw [ofCode, if_pos surrogate, same, Char.ofNat_toNat]
  · cases stands

theorem ofCode_char (c : Char) : ofCode c.toNat = [c] := by
  have whole : isSurrogate c.toNat = false := by
    have valid := c.valid
    simp only [isSurrogate, Bool.and_eq_false_iff, decide_eq_false_iff_not]
    change c.toNat.isValidChar at valid
    unfold Nat.isValidChar at valid
    omega
  rw [ofCode, if_neg (by simp [whole]), Char.ofNat_toNat]

theorem flatMap_codes (cs : List Char) : ((elements cs).map Element.code).flatMap ofCode = cs := by
  fun_induction elements cs with
  | case1 => rfl
  | case2 c => simp [Element.code, ofCode_char]
  | case3 a b rest n stands ih =>
    split at stands
    · next marked => simp [Element.code, ofCode_half stands, ih, marked]
    · cases stands
  | case4 a b rest _ ih =>
    rw [List.map_cons, List.flatMap_cons, ih, Element.code, ofCode_char]
    rfl

theorem codes_injective {s t : String} (same : codes s = codes t) : s = t := by
  have spelled := congrArg (List.flatMap ofCode) same
  rw [codes, codes, flatMap_codes, flatMap_codes] at spelled
  exact String.toList_injective spelled

end AccessorForge.Text.Surrogate
