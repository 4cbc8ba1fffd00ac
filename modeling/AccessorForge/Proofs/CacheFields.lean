import AccessorForge.Naming
import AccessorForge.Text.Identifier
import AccessorForge.Text.Surrogate
/-! The cache field of an identifier is an identifier. Only its first letter is lowered, and every letter that may start
an identifier is lowered to characters that may continue one; the tables of both sets are compared as ascending change
points, and the images of whole runs of letters with the gaps between them. -/
namespace AccessorForge.Text.Ranges

/-- Every code point of one set is in the other, of which both are known before their first change points. -/
def covered : Nat → Bool → Bool → List Nat → List Nat → Bool
  | 0, _, _, _, _ => false
  | _ + 1, inner, outer, [], [] => !inner || outer
  | fuel + 1, inner, outer, _ :: inners, [] => (!inner || outer) && covered fuel (!inner) outer inners []
  | fuel + 1, inner, outer, [], _ :: outers => (!inner || outer) && covered fuel inner (!outer) [] outers
  | fuel + 1, inner, outer, p :: inners, q :: outers =>
    (!inner || outer) &&
      if p < q then covered fuel (!inner) outer inners (q :: outers)
      else if q < p then covered fuel inner (!outer) (p :: inners) outers
      else covered fuel (!inner) (!outer) inners outers

/- Along the change points of both sets. Below the nearer one each set is what it is said to be there. -/
theorem containsCovered {fuel : Nat} {inner outer : Bool} {inners outers : List Nat}
    (told : covered fuel inner outer inners outers) {c : Nat} (inside : containsFrom inner inners c) :
    containsFrom outer outers c := by
  have here {inner outer : Bool} (told : !inner || outer) (inside : inner) : outer := by simpa [inside] using told
  fun_induction covered fuel inner outer inners outers with
  | case1 => cases told
  | case2 fuel inner outer => exact here told inside
  | case3 fuel inner outer p inners ih =>
    rw [Bool.and_eq_true] at told
    rw [containsFrom] at inside
    split at inside
    · exact here told.1 inside
    · exact ih told.2 inside
  | case4 fuel inner outer q outers ih =>
    rw [Bool.and_eq_true] at told
    rw [containsFrom]
    split
    · exact here told.1 inside
    · exact ih told.2 inside
  | case5 fuel inner outer p inners q outers first second third =>
    rw [Bool.and_eq_true] at told
    obtain ⟨before, told⟩ := told
    split at told
    · next less =>
      rw [containsFrom] at inside
      split at inside
      · next low =>
        rw [containsFrom, if_pos (Nat.lt_trans low less)]
        exact here before inside
      · exact first told inside
    · next notLess =>
      rw [containsFrom]
      split at told
      · next less =>
        split
        · next low =>
          rw [containsFrom, if_pos (Nat.lt_trans low less)] at inside
          exact here before inside
        · exact second told inside
      · next notMore =>
        obtain rfl : p = q := by omega
        rw [containsFrom] at inside
        split
        · next low =>
          rw [if_pos low] at inside
          exact here before inside
        · next high =>
          rw [if_neg high] at inside
          exact third told inside

/-- Membership is the same and as wanted all the way from one code point to another. The tests are those that numbers
are compared by when a whole table is checked. -/
def spans (low high : Nat) (wanted : Bool) : Bool → List Nat → Bool
  | inside, [] => inside == wanted
  | inside, p :: rest =>
    bif Nat.blt high p then inside == wanted else Nat.ble p low && spans low high wanted (!inside) rest

theorem containsSpans {low high : Nat} {wanted inside : Bool} {changes : List Nat}
    (told : spans low high wanted inside changes) {c : Nat} (above : low ≤ c) (below : c ≤ high) :
    containsFrom inside changes c = wanted := by
  induction changes generalizing inside with
  | nil => exact eq_of_beq told
  | cons p rest ih =>
    rw [spans, cond_eq_ite] at told
    rw [containsFrom]
    split at told
    · next high' =>
      rw [Nat.blt_eq] at high'
      rw [if_pos (by omega)]
      exact eq_of_beq told
    · rw [Bool.and_eq_true, Nat.ble_eq] at told
      rw [if_neg (by omega)]
      exact ih told.2

end Ranges

namespace Identifier
open Lower (lower lowerChar lowerFrom)
open LowerTable (Run)

/-- Where the letters of a run are lowered to, all may continue an identifier, or none of them may start one. -/
def keepsRun (run : Run) : Bool :=
  let low := (run.first + run.shift).toNat
  let high := (run.last + run.shift).toNat
  (bif Nat.blt high 0x80 then run.first == run.last && isContinue (Char.ofNat low)
    else Nat.ble 0x80 low && Ranges.spans low high true false continueChanges) ||
    Ranges.spans run.first run.last false false startChanges

/-- What the tables are looked through for, once for all. -/
structure Tables : Prop where
  starts : Ranges.covered 3000 false false startChanges continueChanges = true
  valid : Ranges.covered 3000 false false continueChanges [0, 0xD800, 0xE000, 0x110000] = true
  runs : LowerTable.runs.all keepsRun = true
  sigma : isContinue Lower.smallSigma = true
  dotted : ['i', '\u0307'].all isContinue = true
  low : ∀ n < 0x80, isStart (Char.ofNat n) → isContinue (Char.ofNat n).toLower

theorem tables : Tables := by constructor <;> decide +kernel

theorem startContinues {c : Char} (start : isStart c) : isContinue c := by
  rw [isStart] at start
  rw [isContinue]
  split at start
  · next low => rw [if_pos low, start]; rfl
  · next high =>
    rw [if_neg high]
    exact Ranges.containsCovered tables.starts start

theorem continueValid {n : Nat} (inside : Ranges.contains continueChanges n) : n.isValidChar := by
  have valid := Ranges.containsCovered tables.valid inside
  simp only [Ranges.containsFrom] at valid
  simp only [Nat.isValidChar]
  rcases Nat.lt_or_ge n 0xD800 with low | high
  · exact .inl low
  · have past : ¬n < 0xE000 := fun surrogate => by
      simp [show ¬n < 0xD800 by omega, surrogate] at valid
    have bounded : n < 0x110000 := Nat.not_le.mp fun beyond => by
      simp [show ¬n < 0xD800 by omega, past, show ¬n < 0x110000 by omega] at valid
    omega

theorem runContinues {run : Run} (listed : run ∈ LowerTable.runs) {c : Char} (inside : run.covers c.toNat) (start : isStart c)
    (high : ¬c.toNat < 0x80) : isContinue (Char.ofNat (c.toNat + run.shift).toNat) := by
  have kept := List.all_eq_true.mp tables.runs run listed
  rw [isStart, if_neg high] at start
  simp only [Run.covers, Bool.and_eq_true, decide_eq_true_eq] at inside
  obtain ⟨⟨above, below⟩, -⟩ := inside
  rw [keepsRun, Bool.or_eq_true, cond_eq_ite] at kept
  rcases kept with kept | none
  · split at kept
    · rw [Bool.and_eq_true, beq_iff_eq] at kept
      obtain ⟨same, fine⟩ := kept
      rwa [show c.toNat = run.first by omega]
    · rw [Bool.and_eq_true, Nat.ble_eq] at kept
      have within : Ranges.contains continueChanges (c.toNat + run.shift).toNat :=
        Ranges.containsSpans kept.2 (by omega) (by omega)
      rw [isContinue, Surrogate.toNat_ofNat (continueValid within), if_neg (by omega)]
      exact within
  · rw [Ranges.contains, Ranges.containsSpans none above below] at start
    cases start

theorem lowerContinues {c : Char} (start : isStart c) : ∀ d ∈ Lower.lower [c], isContinue d := by
  rw [Lower.lower, lowerFrom, lowerFrom, List.append_nil]
  split
  · next sigma =>
    simp only [Lower.meetsCased, List.dropWhile_nil, Bool.false_and, Bool.false_eq_true, if_false]
    exact List.forall_mem_singleton.mpr tables.sigma
  · rw [lowerChar]
    split
    · next low =>
      rw [← Char.ofNat_toNat c] at start
      simpa using tables.low c.toNat low start
    · next high =>
      split
      · exact List.all_eq_true.mp tables.dotted
      · split
        · next run found =>
          refine List.forall_mem_singleton.mpr (runContinues (List.mem_of_find?_eq_some found) ?_ start high)
          simpa using List.find?_some found
        · exact List.forall_mem_singleton.mpr (startContinues start)

end Identifier
end AccessorForge.Text

namespace AccessorForge.Naming
open Text.Identifier

theorem cacheFieldIdentifier {property : String} (named : isIdentifier property.toList) :
    isIdentifier (cacheField property).toList := by
  rw [cacheField, String.toList_ofList]
  generalize property.toList = text at named ⊢
  cases text with
  | nil => rfl
  | cons c rest =>
    rw [isIdentifier, Bool.and_eq_true, List.all_eq_true] at named
    rw [cacheFieldChars, List.cons_append, isIdentifier, Bool.and_eq_true, List.all_eq_true]
    exact ⟨by decide, List.forall_mem_append.mpr ⟨lowerContinues named.1, named.2⟩⟩

end AccessorForge.Naming
