import AccessorForge.Files.Tree
import Mathlib.Data.List.Induction
/-! Where paths lead in a tree that can be: every entry stands in a directory, once, under names that files can
have. A walk passes through directories only, so it does not fail later as long as they stay. -/
namespace AccessorForge

namespace Path

def follow (here : Spot) (names : List String) : Spot :=
  names.foldl (fun done part => if part = ".." then done.dropLast else done ++ [part]) here

theorem followAppend (here : Spot) (names more : List String) :
    follow here (names ++ more) = follow (follow here names) more := List.foldl_append ..

theorem followDotless {names : List String} (dotless : ".." ∉ names) (here : Spot) :
    follow here names = here ++ names := by
  induction names generalizing here with
  | nil => simp [follow]
  | cons name rest ih =>
    simp only [List.mem_cons, not_or] at dotless
    have plain : name ≠ ".." := fun same => dotless.1 same.symm
    have later := ih dotless.2 (here ++ [name])
    unfold follow at later ⊢
    rw [List.foldl_cons, if_neg plain, later]
    simp

theorem dotlessFollow {here : Spot} (dotless : ".." ∉ here) (names : List String) :
    ".." ∉ follow here names := by
  induction names generalizing here with
  | nil => exact dotless
  | cons name rest ih =>
    unfold follow
    rw [List.foldl_cons]
    split
    · exact ih fun dots => dotless (List.dropLast_subset _ dots)
    · rename_i plain
      refine ih fun dots => ?_
      rcases List.mem_append.mp dots with old | last
      · exact dotless old
      · exact plain (List.mem_singleton.mp last).symm

theorem followWithin {here : Spot} {names : List String} {n : String} (member : n ∈ follow here names) :
    n ∈ here ∨ n ∈ names := by
  induction names generalizing here with
  | nil => exact .inl member
  | cons name rest ih =>
    unfold follow at member
    rw [List.foldl_cons] at member
    split at member
    · rcases ih member with old | later
      · exact .inl (List.dropLast_subset _ old)
      · exact .inr (List.mem_cons_of_mem _ later)
    · rcases ih member with old | later
      · rcases List.mem_append.mp old with old | last
        · exact .inl old
        · exact .inr (List.mem_singleton.mp last ▸ List.mem_cons_self)
      · exact .inr (List.mem_cons_of_mem _ later)

/-- An absolute path without double dots. -/
structure Straight (p : Path) : Prop where
  anchored : p.anchor = "/"
  dotless : ".." ∉ p.parts

theorem Straight.isAbsolute {p : Path} (straight : p.Straight) : p.isAbsolute = true := by
  simp [Path.isAbsolute, straight.anchored]

theorem Straight.absolute {p : Path} (straight : p.Straight) (cwd : Spot) : p.absolute cwd = p := by
  have parts : withoutDots p.parts = p.parts := by
    have followed := followDotless straight.dotless []
    rwa [List.nil_append] at followed
  unfold Path.absolute
  rw [straight.isAbsolute, if_pos rfl, parts, ← straight.anchored]

theorem straightAbsolute (p : Path) (cwd : Spot) : (p.absolute cwd).Straight :=
  ⟨rfl, dotlessFollow (by simp) _⟩

theorem absoluteParts (p : Path) {cwd : Spot} (dotless : ".." ∉ cwd) :
    (p.absolute cwd).parts = follow (if p.isAbsolute then [] else cwd) p.parts := by
  have started : follow [] cwd = cwd := by simpa using followDotless dotless []
  unfold Path.absolute
  split
  · rfl
  · have joined := followAppend [] cwd p.parts
    rw [started] at joined
    exact joined

theorem anchoredEq {p q : Path} (anchored : p.anchor = "/") (anchoredToo : q.anchor = "/") (same : p.parts = q.parts) :
    p = q := by
  obtain ⟨_, _⟩ := p
  obtain ⟨_, _⟩ := q
  cases anchored
  cases anchoredToo
  exact congrArg (Path.mk "/") same

theorem absoluteEq {p q : Path} {cwd : Spot} (same : (p.absolute cwd).parts = (q.absolute cwd).parts) :
    p.absolute cwd = q.absolute cwd := anchoredEq rfl rfl same

def isProper (n : String) : Bool :=
  n ≠ ".." && !isUnpaired n && !hasNulIn n && decide (byteCount n ≤ maxNameBytes)

theorem properParts {n : String} (proper : isProper n = true) :
    n ≠ ".." ∧ (isUnpaired n = false ∧ hasNulIn n = false) ∧ byteCount n ≤ maxNameBytes := by
  simp only [isProper, Bool.and_eq_true, Bool.not_eq_true', decide_eq_true_eq] at proper
  exact ⟨proper.1.1.1, ⟨proper.1.1.2, proper.1.2⟩, proper.2⟩

theorem properDotless {s : Spot} (proper : ∀ n ∈ s, isProper n = true) : ".." ∉ s := by
  intro dots
  exact (properParts (proper ".." dots)).1 rfl

/-- An absolute path of names that files can have. -/
structure Usable (p : Path) : Prop where
  anchored : p.anchor = "/"
  proper : ∀ n ∈ p.parts, isProper n = true

theorem Usable.straight {p : Path} (usable : p.Usable) : p.Straight := ⟨usable.anchored, properDotless usable.proper⟩

theorem unflawedIff (p : Path) :
    p.flaw? = none ↔ ∀ n ∈ p.parts, isUnpaired n = false ∧ hasNulIn n = false := by
  unfold flaw?
  constructor
  · intro none n member
    split at none
    · cases none
    · rename_i paired
      split at none
      · cases none
      · rename_i whole
        simp only [List.any_eq_true, not_exists, not_and, Bool.not_eq_true] at paired whole
        exact ⟨paired n member, whole n member⟩
  · intro fine
    have paired : ¬ p.parts.any isUnpaired = true := by
      simp only [List.any_eq_true, not_exists, not_and, Bool.not_eq_true]
      exact fun n member => (fine n member).1
    have whole : ¬ p.parts.any hasNulIn = true := by
      simp only [List.any_eq_true, not_exists, not_and, Bool.not_eq_true]
      exact fun n member => (fine n member).2
    rw [if_neg paired, if_neg whole]

theorem firstUnflawedIff (p : Path) :
    p.firstFlaw? = none ↔ ∀ n ∈ p.parts, isUnpaired n = false ∧ hasNulIn n = false := by
  unfold firstFlaw?
  rw [List.findSome?_eq_none_iff]
  constructor
  · intro none n member
    have here := none n member
    split at here
    · cases here
    · rename_i paired
      split at here
      · cases here
      · rename_i whole
        exact ⟨by simpa using paired, by simpa using whole⟩
  · intro fine n member
    simp [(fine n member).1, (fine n member).2]

theorem Usable.unflawed {p : Path} (usable : p.Usable) : p.flaw? = none :=
  (unflawedIff p).mpr fun n member => (properParts (usable.proper n member)).2.1

theorem Usable.firstUnflawed {p : Path} (usable : p.Usable) : p.firstFlaw? = none :=
  (firstUnflawedIff p).mpr fun n member => (properParts (usable.proper n member)).2.1

def Fits (p : Path) : Prop := byteCount p.text ≤ maxPathBytes

end Path

namespace FileTree

def bytes? (t : FileTree) (s : Spot) : Option (List UInt8) :=
  match t.get? s with
  | some (.file bytes) => some bytes
  | _ => none

theorem bytesIff (t : FileTree) (s : Spot) (bytes : List UInt8) :
    t.bytes? s = some bytes ↔ t.get? s = some (.file bytes) := by
  unfold bytes?
  split
  · rename_i found there
    simp [there]
  · rename_i other
    constructor
    · intro impossible
      cases impossible
    · intro there
      exact absurd there (other bytes)

/-- What holds of every tree of files. -/
structure Sound (t : FileTree) : Prop where
  distinct : (t.map (·.1)).Nodup
  below : ∀ entry ∈ t, entry.1 ≠ []
  housed : ∀ s e, t.get? s = some e → s ≠ [] → t.get? s.dropLast = some .directory
  proper : ∀ s e, t.get? s = some e → ∀ n ∈ s, Path.isProper n = true

def isSound (t : FileTree) : Bool :=
  decide (t.map (·.1)).Nodup && t.all fun (s, _) =>
    decide (s ≠ []) && t.isDirectory s.dropLast && s.all Path.isProper

theorem entryOf {t : FileTree} {s : Spot} {e : Entry} (found : t.get? s = some e) (below : s ≠ []) : (s, e) ∈ t := by
  unfold get? at found
  rw [if_neg (by simpa using below)] at found
  cases there : t.find? (·.1 = s) with
  | none => simp [there] at found
  | some entry =>
    have same : entry.1 = s := by simpa using List.find?_some there
    have value : entry.2 = e := by simpa [there] using found
    rw [← same, ← value]
    exact List.mem_of_find?_eq_some there

theorem ofEntry {t : FileTree} (sound : t.Sound) {s : Spot} {e : Entry} (member : (s, e) ∈ t) : t.get? s = some e := by
  have below : s ≠ [] := sound.below _ member
  have distinct := sound.distinct
  clear sound
  unfold get?
  rw [if_neg (by simpa using below)]
  induction t with
  | nil => cases member
  | cons head rest ih =>
    obtain ⟨fresh, distinct⟩ := List.nodup_cons.mp distinct
    rcases List.mem_cons.mp member with rfl | later
    · simp
    · have other : head.1 ≠ s := by
        intro same
        exact fresh (List.mem_map.mpr ⟨(s, e), later, same.symm⟩)
      rw [List.find?_cons_of_neg (by simpa using other)]
      exact ih later distinct

theorem soundIf {t : FileTree} (checked : t.isSound = true) : t.Sound := by
  unfold isSound at checked
  simp only [Bool.and_eq_true, decide_eq_true_eq, List.all_eq_true] at checked
  obtain ⟨distinct, each⟩ := checked
  refine ⟨distinct, fun entry member => (each entry member).1.1, ?_, ?_⟩
  · intro s e found below
    have housed := (each _ (entryOf found below)).1.2
    simpa [isDirectory] using housed
  · intro s e found n member
    have below : s ≠ [] := List.ne_nil_of_mem member
    exact (each _ (entryOf found below)).2 n member

theorem prefixDirectory {t : FileTree} (sound : t.Sound) {s r : Spot} {e : Entry} (found : t.get? (s ++ r) = some e)
    (more : r ≠ []) : t.get? s = some .directory := by
  induction r using List.reverseRecOn generalizing e with
  | nil => exact absurd rfl more
  | append_singleton front last ih =>
    have house := sound.housed _ e found (by simp)
    rw [← List.append_assoc, List.dropLast_concat] at house
    cases front with
    | nil => simpa using house
    | cons name rest => exact ih house (by simp)

/-! Walks. -/

/-- How a walk goes on from its first name. -/
inductive Walked (t : FileTree) (here : Spot) (name : String) (rest : List String)
    (result : Except Obstacle Spot) : Prop
  | up (dots : name = "..") (later : t.walk here.dropLast rest = result)
  | long (plain : name ≠ "..") (long : Path.maxNameBytes < Path.byteCount name)
      (told : result = .error .nameTooLong)
  | last (plain : name ≠ "..") (short : Path.byteCount name ≤ Path.maxNameBytes) (none : rest = [])
      (told : result = .ok (here ++ [name]))
  | down (plain : name ≠ "..") (short : Path.byteCount name ≤ Path.maxNameBytes) (more : rest ≠ [])
      (directory : t.get? (here ++ [name]) = some .directory) (later : t.walk (here ++ [name]) rest = result)
  | blocked (o : Obstacle) (other : o ≠ .nameTooLong) (told : result = .error o)

theorem walkStep {t : FileTree} {here : Spot} {name : String} {rest : List String} {result : Except Obstacle Spot}
    (ran : t.walk here (name :: rest) = result) : Walked t here name rest result := by
  unfold walk at ran
  split at ran
  · rename_i dots
    exact .up dots ran
  · rename_i plain
    split at ran
    · rename_i long
      exact .long plain long ran.symm
    · rename_i short
      have short := Nat.le_of_not_lt short
      dsimp only at ran
      split at ran
      · rename_i none
        exact .last plain short (List.isEmpty_iff.mp none) ran.symm
      · rename_i more
        split at ran
        · rename_i directory
          exact .down plain short (by simpa using more) directory ran
        · exact .blocked _ (by simp) ran.symm
        · exact .blocked _ (by simp) ran.symm

theorem walkUp (t : FileTree) (here : Spot) (rest : List String) :
    t.walk here (".." :: rest) = t.walk here.dropLast rest := by
  simp [walk]

theorem walkLong (t : FileTree) (here : Spot) {name : String} (rest : List String) (plain : name ≠ "..")
    (long : Path.maxNameBytes < Path.byteCount name) : t.walk here (name :: rest) = .error .nameTooLong := by
  simp [walk, plain, long]

theorem walkLast (t : FileTree) (here : Spot) {name : String} (plain : name ≠ "..")
    (short : Path.byteCount name ≤ Path.maxNameBytes) : t.walk here [name] = .ok (here ++ [name]) := by
  simp [walk, plain, short]

theorem walkDown {t : FileTree} {here : Spot} {name : String} {rest : List String} (plain : name ≠ "..")
    (short : Path.byteCount name ≤ Path.maxNameBytes) (more : rest ≠ [])
    (directory : t.get? (here ++ [name]) = some .directory) :
    t.walk here (name :: rest) = t.walk (here ++ [name]) rest := by
  have going : rest.isEmpty = false := by simpa using more
  have fits : ¬ Path.maxNameBytes < Path.byteCount name := Nat.not_lt.mpr short
  simp [walk, plain, fits, going, directory]

theorem walkFollows {t : FileTree} {here s : Spot} {names : List String} (ok : t.walk here names = .ok s) :
    s = Path.follow here names := by
  induction names generalizing here with
  | nil =>
    cases ok
    rfl
  | cons name rest ih =>
    unfold Path.follow
    rw [List.foldl_cons]
    cases walkStep ok with
    | up dots later =>
      rw [if_pos dots]
      exact ih later
    | last plain short none told =>
      cases told
      rw [if_neg plain, none]
      rfl
    | down plain short more directory later =>
      rw [if_neg plain]
      exact ih later
    | long plain long told => cases told
    | blocked o other told => cases told

theorem walkShort {t : FileTree} {here s : Spot} {names : List String} (ok : t.walk here names = .ok s) :
    ∀ n ∈ names, n = ".." ∨ Path.byteCount n ≤ Path.maxNameBytes := by
  induction names generalizing here with
  | nil => simp
  | cons name rest ih =>
    intro n member
    cases walkStep ok with
    | up dots later =>
      rcases List.mem_cons.mp member with rfl | deeper
      · exact .inl dots
      · exact ih later n deeper
    | last plain short none told =>
      rw [none] at member
      exact .inr (List.mem_singleton.mp member ▸ short)
    | down plain short more directory later =>
      rcases List.mem_cons.mp member with rfl | deeper
      · exact .inr short
      · exact ih later n deeper
    | long plain long told => cases told
    | blocked o other told => cases told

theorem walkHoused {t : FileTree} (sound : t.Sound) {here s : Spot} {names : List String}
    (start : t.get? here = some .directory) (ok : t.walk here names = .ok s) :
    t.get? s = some .directory ∨ t.get? s.dropLast = some .directory := by
  induction names generalizing here with
  | nil =>
    cases ok
    exact .inl start
  | cons name rest ih =>
    cases walkStep ok with
    | up dots later =>
      have above : t.get? here.dropLast = some .directory := by
        cases here with
        | nil => rfl
        | cons first more => exact sound.housed _ _ start (by simp)
      exact ih above later
    | last plain short none told =>
      cases told
      rw [List.dropLast_concat]
      exact .inr start
    | down plain short more directory later => exact ih directory later
    | long plain long told => cases told
    | blocked o other told => cases told

/-- Directories stay. -/
def Grown (t v : FileTree) : Prop := ∀ s, t.get? s = some .directory → v.get? s = some .directory

theorem walkKept {t v : FileTree} (grown : t.Grown v) {here s : Spot} {names : List String}
    (ok : t.walk here names = .ok s) : v.walk here names = .ok s := by
  induction names generalizing here with
  | nil => exact ok
  | cons name rest ih =>
    cases walkStep ok with
    | up dots later =>
      rw [dots, walkUp]
      exact ih later
    | last plain short none told => rw [told, none, walkLast v here plain short]
    | down plain short more directory later =>
      rw [walkDown plain short more (grown _ directory)]
      exact ih later
    | long plain long told => cases told
    | blocked o other told => cases told

theorem walkTooLong {t v : FileTree} (grown : t.Grown v) {here : Spot} {names : List String}
    (long : t.walk here names = .error .nameTooLong) : v.walk here names = .error .nameTooLong := by
  induction names generalizing here with
  | nil => cases long
  | cons name rest ih =>
    cases walkStep long with
    | up dots later =>
      rw [dots, walkUp]
      exact ih later
    | long plain long told => exact walkLong v here rest plain long
    | down plain short more directory later =>
      rw [walkDown plain short more (grown _ directory)]
      exact ih later
    | last plain short none told => cases told
    | blocked o other told => exact absurd (Except.error.inj told).symm other

theorem walkFine (t : FileTree) {here : Spot} {names : List String}
    (short : ∀ n ∈ names, Path.byteCount n ≤ Path.maxNameBytes) : t.walk here names ≠ .error .nameTooLong := by
  induction names generalizing here with
  | nil => simp [walk]
  | cons name rest ih =>
    intro failed
    have others : ∀ n ∈ rest, Path.byteCount n ≤ Path.maxNameBytes := fun n later =>
      short n (List.mem_cons_of_mem _ later)
    cases walkStep failed with
    | up dots later => exact ih others later
    | long plain long told => exact absurd (short name List.mem_cons_self) (Nat.not_le.mpr long)
    | last plain short none told => cases told
    | down plain short more directory later => exact ih others later
    | blocked o other told => exact other (Except.error.inj told).symm

theorem walkThere {t : FileTree} (sound : t.Sound) {here : Spot} {names : List String} {e : Entry}
    (found : t.get? (here ++ names) = some e) : t.walk here names = .ok (here ++ names) := by
  induction names generalizing here with
  | nil => simp [walk]
  | cons name rest ih =>
    obtain ⟨plain, _, short⟩ := Path.properParts (sound.proper _ e found name (by simp))
    have regrouped : here ++ name :: rest = here ++ [name] ++ rest := by simp
    rw [regrouped] at found ⊢
    by_cases none : rest = []
    · rw [none, walkLast t here plain short, List.append_nil]
    · rw [walkDown plain short none (prefixDirectory sound found none)]
      exact ih found

theorem locateFits {t : FileTree} {cwd s : Spot} {p : Path} (ok : t.locate cwd p = .ok s) :
    p.Fits ∧ t.walk (if p.isAbsolute then [] else cwd) p.parts = .ok s := by
  unfold locate at ok
  split at ok
  · cases ok
  · rename_i fits
    exact ⟨Nat.le_of_not_lt fits, ok⟩

theorem entryFound {t : FileTree} {cwd : Spot} {p : Path} {e : Entry} (found : t.entry? cwd p = .ok (some e)) :
    p.flaw? = none ∧ ∃ s, t.locate cwd p = .ok s ∧ t.get? s = some e := by
  unfold entry? at found
  split at found
  · cases found
  · rename_i whole
    refine ⟨by simpa using whole, ?_⟩
    unfold entry at found
    cases located : t.locate cwd p with
    | error o =>
      rw [located] at found
      cases o <;> cases found
    | ok s =>
      cases there : t.get? s with
      | none =>
        rw [located] at found
        simp only [bind, Except.bind, there] at found
        cases found
      | some d =>
        rw [located] at found
        simp only [bind, Except.bind, there] at found
        cases found
        exact ⟨s, rfl, there⟩

theorem entryFits {t : FileTree} {cwd : Spot} {p : Path} {e : Entry} (found : t.entry? cwd p = .ok (some e)) :
    p.Fits := by
  obtain ⟨_, s, located, _⟩ := entryFound found
  exact (locateFits located).1

theorem entryTooLong {t : FileTree} {cwd : Spot} {p : Path} (long : t.entry cwd p = .error .nameTooLong) :
    t.locate cwd p = .error .nameTooLong := by
  unfold entry at long
  cases located : t.locate cwd p with
  | error o =>
    rw [located] at long
    exact congrArg _ (Except.error.inj long)
  | ok s =>
    rw [located] at long
    simp only [bind, Except.bind] at long
    split at long
    · cases long
    · cases long

theorem locateAbsolute {t : FileTree} {cwd s : Spot} {p : Path} (dotless : ".." ∉ cwd)
    (ok : t.locate cwd p = .ok s) : s = (p.absolute cwd).parts := by
  rw [Path.absoluteParts p dotless]
  exact walkFollows (locateFits ok).2

theorem locateKept {t v : FileTree} (grown : t.Grown v) {cwd s : Spot} {p : Path} (ok : t.locate cwd p = .ok s) :
    v.locate cwd p = .ok s := by
  obtain ⟨fits, walked⟩ := locateFits ok
  unfold locate
  rw [if_neg (Nat.not_lt.mpr fits)]
  exact walkKept grown walked

theorem locateThere {t : FileTree} (sound : t.Sound) (cwd : Spot) {p : Path} (straight : p.Straight)
    (fits : p.Fits) {e : Entry} (found : t.get? p.parts = some e) :
    t.locate cwd p = .ok p.parts := by
  unfold locate
  rw [if_neg (Nat.not_lt.mpr fits), straight.isAbsolute, if_pos rfl]
  exact walkThere sound found

theorem entryStraight {t : FileTree} (sound : t.Sound) {cwd : Spot} {p : Path} (straight : p.Straight)
    {e : Option Entry} (told : t.entry? cwd p = .ok e) : e = t.get? p.parts := by
  unfold entry? at told
  split at told
  · rename_i flawed
    cases told
    cases there : t.get? p.parts with
    | none => rfl
    | some d =>
      have unflawed : p.flaw? = none := by
        rw [Path.unflawedIff]
        exact fun n member => (Path.properParts (sound.proper _ d there n member)).2.1
      simp [unflawed] at flawed
  · unfold entry at told
    by_cases fits : p.Fits
    · cases there : t.get? p.parts with
      | some d =>
        rw [locateThere sound cwd straight fits there] at told
        simp only [bind, Except.bind, there] at told
        cases told
        rfl
      | none =>
        cases located : t.locate cwd p with
        | ok s =>
          have same : s = p.parts := by
            have followed := walkFollows (locateFits located).2
            rwa [straight.isAbsolute, if_pos rfl, Path.followDotless straight.dotless, List.nil_append] at followed
          rw [located] at told
          simp only [bind, Except.bind, same, there] at told
          cases told
          rfl
        | error o =>
          rw [located] at told
          cases o <;> cases told <;> rfl
    · have long : t.locate cwd p = .error .nameTooLong := by
        unfold locate
        rw [if_pos (Nat.lt_of_not_le fits)]
      rw [long] at told
      cases told

theorem entryUsable {t : FileTree} (sound : t.Sound) (cwd : Spot) {p : Path} (usable : p.Usable) (fits : p.Fits) :
    t.entry? cwd p = .ok (t.get? p.parts) := by
  have told : ∃ e, t.entry? cwd p = .ok e := by
    unfold entry?
    rw [usable.unflawed]
    cases found : t.entry cwd p with
    | ok e => exact ⟨some e, rfl⟩
    | error o =>
      cases o with
      | nameTooLong =>
        exfalso
        have long := entryTooLong found
        unfold locate at long
        rw [if_neg (Nat.not_lt.mpr fits)] at long
        exact walkFine t (fun n member => (Path.properParts (usable.proper n member)).2.2) long
      | _ => exact ⟨none, rfl⟩
  obtain ⟨e, told⟩ := told
  rw [told, entryStraight sound usable.straight told]

end FileTree

end AccessorForge
