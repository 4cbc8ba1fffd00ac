import AccessorForge.Hosting.Evaluation
import AccessorForge.Proofs.Running
/-! Computations in a world that keep a property of it, whatever they give and also where they fail. -/
namespace AccessorForge.Hosting
open Running
variable {α β : Type} {I : World → Prop}

/-- What holds of all computations that are put together from ones of which it holds. -/
structure Closed {m : Type → Type} [Monad m] (K : (α : Type) → m α → Prop) : Prop where
  pure {α : Type} (a : α) : K α (pure a)
  bind {α β : Type} {x : m α} {f : α → m β} (first : K α x) (next : ∀ a, K β (f a)) : K β (x >>= f)

namespace Closed
variable {m : Type → Type} [Monad m] {K : (α : Type) → m α → Prop}

theorem forM (closed : Closed K) {f : α → m PUnit} (each : ∀ a, K _ (f a)) (l : List α) : K _ (l.forM f) := by
  induction l with
  | nil => exact closed.pure _
  | cons a rest ih => exact closed.bind (each a) fun _ => ih

theorem foldlM (closed : Closed K) {f : β → α → m β} (each : ∀ b a, K _ (f b a)) (l : List α) (b : β) :
    K _ (l.foldlM f b) := by
  induction l generalizing b with
  | nil => exact closed.pure _
  | cons a rest ih =>
    rw [List.foldlM_cons]
    exact closed.bind (each b a) ih

theorem flatMapM (closed : Closed K) {f : α → m (List β)} (each : ∀ a, K _ (f a)) (l : List α) :
    K _ (l.flatMapM f) := by
  have looped : ∀ done, K _ (List.flatMapM.loop f l done) := by
    induction l with
    | nil => exact fun _ => closed.pure _
    | cons a rest ih => exact fun _ => closed.bind (each a) fun _ => ih _
  exact looped []

theorem mapM (closed : Closed K) {f : α → m β} (each : ∀ a, K _ (f a)) (l : List α) : K _ (l.mapM f) := by
  have looped : ∀ done, K _ (List.mapM.loop f l done) := by
    induction l with
    | nil => exact fun _ => closed.pure _
    | cons a rest ih => exact fun _ => closed.bind (each a) fun _ => ih _
  exact looped []

theorem anyM (closed : Closed K) {p : α → m Bool} (each : ∀ a, K _ (p a)) (l : List α) : K _ (l.anyM p) := by
  induction l with
  | nil => exact closed.pure _
  | cons a rest ih =>
    refine closed.bind (each a) fun b => ?_
    cases b with
    | true => exact closed.pure _
    | false => exact ih

theorem allM (closed : Closed K) {p : α → m Bool} (each : ∀ a, K _ (p a)) (l : List α) : K _ (l.allM p) := by
  induction l with
  | nil => exact closed.pure _
  | cons a rest ih =>
    refine closed.bind (each a) fun b => ?_
    cases b with
    | true => exact ih
    | false => exact closed.pure _

theorem findM (closed : Closed K) {p : α → m Bool} (each : ∀ a, K _ (p a)) (l : List α) : K _ (l.findM? p) := by
  induction l with
  | nil => exact closed.pure _
  | cons a rest ih =>
    refine closed.bind (each a) fun b => ?_
    cases b with
    | true => exact closed.pure _
    | false => exact ih

end Closed

/-! Actions. -/

def Act.Keeps (I : World → Prop) (x : Act α) : Prop := ∀ w, I w → I (x.runIn w).2

namespace Act

theorem Keeps.ran {x : Act α} {result : Except Fault α} {w v : World} (kept : Keeps I x)
    (ran : x.runIn w = (result, v)) (holds : I w) : I v := by
  have after := kept w holds
  rw [ran] at after
  exact after

theorem keepsPure (a : α) : Keeps I (pure a) := fun _ holds => holds

theorem keepsThrow (f : Fault) : Keeps I (throw f : Act α) := fun _ holds => holds

theorem keepsBind {x : Act α} {f : α → Act β} (first : Keeps I x) (next : ∀ a, Keeps I (f a)) :
    Keeps I (x >>= f) := by
  intro w holds
  rw [bindIn]
  cases ran : x.runIn w with
  | mk result v =>
    have after := first.ran ran holds
    cases result with
    | ok a => exact next a v after
    | error e => exact after

theorem keepsSeen {f : World → Act β} (next : ∀ w, I w → Keeps I (f w)) : Keeps I (get >>= f) := by
  intro w holds
  rw [bindOf (getIn w)]
  exact next w holds w holds

theorem keepsSet {v : World} (holds : I v) : Keeps I (set v) := fun _ _ => holds

theorem keepsModify {f : World → World} (kept : ∀ w, I w → I (f w)) : Keeps I (modify f) := kept

theorem keepsCatch {x : Act α} {f : Fault → Act α} (first : Keeps I x) (next : ∀ e, Keeps I (f e)) :
    Keeps I (tryCatchThe Fault x f) := by
  intro w holds
  rw [catchIn]
  cases ran : x.runIn w with
  | mk result v =>
    have after := first.ran ran holds
    cases result with
    | ok a => exact after
    | error e => exact next e v after

theorem keepsClosed (I : World → Prop) : Closed fun (α : Type) (x : Act α) => Keeps I x := ⟨keepsPure, keepsBind⟩

theorem keepsGuard {c : Prop} [Decidable c] {f : Fault} {rest : PUnit → Act α} (kept : ∀ u, Keeps I (rest u)) :
    Keeps I (if c then throw f >>= rest else rest ⟨⟩) := by
  split
  · exact keepsBind (keepsThrow f) kept
  · exact kept _

theorem keepsDiscard {x : Act α} (kept : Keeps I x) : Keeps I (discard x) := keepsBind kept fun _ => keepsPure _

theorem keepsAnswer (a : Except Fault α) : Keeps I (ofAnswer a) := by
  cases a with
  | ok a => exact keepsPure a
  | error f => exact keepsThrow f

theorem keepsOption (a : Option α) : Keeps I (ofOption a) := by
  cases a with
  | some a => exact keepsPure a
  | none => exact keepsThrow _

end Act

/-! Evaluation, which has values bound beside the world. -/

def Eval.Keeps (I : World → Prop) (x : Eval α) : Prop := ∀ bound, Act.Keeps I (x.run bound)

namespace Eval

theorem keepsPure (a : α) : Keeps I (pure a) := fun _ => Act.keepsPure _

theorem keepsThrow (f : Fault) : Keeps I (throw f : Eval α) := fun _ => Act.keepsThrow f

theorem keepsBind {x : Eval α} {f : α → Eval β} (first : Keeps I x) (next : ∀ a, Keeps I (f a)) :
    Keeps I (x >>= f) := fun bound => Act.keepsBind (first bound) fun p => next p.1 p.2

theorem keepsLift {x : Act α} (kept : Act.Keeps I x) : Keeps I (liftM x) :=
  fun _ => Act.keepsBind kept fun _ => Act.keepsPure _

theorem keepsSeen {f : World → Eval β} (next : ∀ w, I w → Keeps I (f w)) : Keeps I (getThe World >>= f) :=
  fun bound => Act.keepsSeen fun w holds => next w holds bound

theorem keepsBound : Keeps I (get : Eval (Ledger Datum)) := fun _ => Act.keepsPure _

theorem keepsRebound (bound : Ledger Datum) : Keeps I (set bound : Eval PUnit) := fun _ => Act.keepsPure _

theorem keepsModify (f : Ledger Datum → Ledger Datum) : Keeps I (modify f : Eval PUnit) := fun _ => Act.keepsPure _

theorem keepsClosed (I : World → Prop) : Closed fun (α : Type) (x : Eval α) => Keeps I x := ⟨keepsPure, keepsBind⟩

theorem keepsDiscard {x : Eval α} (kept : Keeps I x) : Keeps I (discard x) := keepsBind kept fun _ => keepsPure _

theorem keepsAnswer (a : Except Fault α) : Keeps I (liftM (ofAnswer a)) := keepsLift (Act.keepsAnswer a)

theorem keepsOption (a : Option α) : Keeps I (liftM (ofOption a)) := keepsLift (Act.keepsOption a)

theorem keepsRun {x : Eval α} (kept : Keeps I x) (bound : Ledger Datum) : Act.Keeps I (x.run' bound) :=
  Act.keepsBind (kept bound) fun _ => Act.keepsPure _

end Eval

end AccessorForge.Hosting
