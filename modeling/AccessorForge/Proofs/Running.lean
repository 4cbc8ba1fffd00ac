/-! A computation that may fail as a function of the state that it starts in: what it gives, and the state that
it leaves, which stays as it is at the fault. -/
section
variable {ε σ α β : Type}

def ExceptT.runIn (x : ExceptT ε (StateM σ) α) (s : σ) : Except ε α × σ := Id.run (StateT.run (ExceptT.run x) s)

theorem AccessorForge.okOf {x : Except ε α} {a : α} (known : x.toOption = some a) : x = .ok a := by
  cases x with
  | error e => cases known
  | ok b => exact congrArg _ (Option.some.inj known)

namespace AccessorForge.Running

theorem getIn (s : σ) : (get : ExceptT ε (StateM σ) σ).runIn s = (.ok s, s) := rfl

theorem bindIn (x : ExceptT ε (StateM σ) α) (f : α → ExceptT ε (StateM σ) β) (s : σ) : (x >>= f).runIn s =
    match x.runIn s with
    | (.ok a, t) => (f a).runIn t
    | (.error e, t) => (.error e, t) := by
  unfold ExceptT.runIn ExceptT.run StateT.run Id.run
  simp only [bind, ExceptT.bind, ExceptT.mk, StateT.bind, ExceptT.bindCont]
  cases x s with
  | mk result t => cases result <;> rfl

theorem bindOk {x : ExceptT ε (StateM σ) α} {f : α → ExceptT ε (StateM σ) β} {s s' : σ} {b : β}
    (ok : (x >>= f).runIn s = (.ok b, s')) :
    ∃ a t, x.runIn s = (.ok a, t) ∧ (f a).runIn t = (.ok b, s') := by
  rw [bindIn] at ok
  cases ran : x.runIn s with
  | mk result t =>
    rw [ran] at ok
    cases result with
    | error e => cases ok
    | ok a => exact ⟨a, t, rfl, ok⟩

theorem bindOf {x : ExceptT ε (StateM σ) α} {f : α → ExceptT ε (StateM σ) β} {s t : σ} {a : α}
    (ok : x.runIn s = (.ok a, t)) : (x >>= f).runIn s = (f a).runIn t := by
  rw [bindIn, ok]

theorem resultIn (x : ExceptT ε (StateM σ) α) (f : Except ε α → StateM σ (Except ε β)) (s : σ) :
    (ExceptT.mk (x.run >>= f) : ExceptT ε (StateM σ) β).runIn s =
      Id.run (StateT.run (f (x.runIn s).1) (x.runIn s).2) := rfl

theorem catchIn (x : ExceptT ε (StateM σ) α) (f : ε → ExceptT ε (StateM σ) α) (s : σ) :
    (tryCatchThe ε x f).runIn s =
    match x.runIn s with
    | (.ok a, t) => (.ok a, t)
    | (.error e, t) => (f e).runIn t := by
  have unfolded : (tryCatchThe ε x f).runIn s = Id.run (StateT.run (match (x.runIn s).1 with
      | .ok a => pure (.ok a)
      | .error e => ExceptT.run (f e)) (x.runIn s).2) := rfl
  rw [unfolded]
  cases x.runIn s with
  | mk result t => cases result <;> rfl

theorem guardIn {c : Prop} [Decidable c] (e : ε) (rest : PUnit → ExceptT ε (StateM σ) α) (s : σ) :
    (if c then throw e >>= rest else rest ⟨⟩ : ExceptT ε (StateM σ) α).runIn s =
      if c then (.error e, s) else (rest ⟨⟩).runIn s := by
  split
  · rfl
  · rfl

end AccessorForge.Running

end
