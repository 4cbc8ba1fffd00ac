import AccessorForge.Proofs.Upkeep
/-! Every expression keeps what the hosts' own writes and the accessors of the world keep, to any depth. -/
namespace AccessorForge.Hosting
open Syntax
variable {own : ObjectId → Getter → Prop} {I : World → Prop} {r : Reach}

namespace Reach
variable (lasting : Lasting own I) (keeping : r.Keeping own I)
include lasting keeping

/-! Rows of expressions. -/

omit lasting in
theorem rowKeeps (f : Frame) (items : List Expr) : Eval.Keeps I (r.row f items) := by
  refine (Eval.keepsClosed I).flatMapM (fun e => ?_) items
  split
  · exact Eval.keepsBind (keeping.evaluate f _) (keeping.elements f)
  · exact Eval.keepsBind (keeping.evaluate f _) fun _ => Eval.keepsPure _

omit lasting in
theorem boundsKeeps (f : Frame) (given : List Bool) (parts : List Expr) : Eval.Keeps I (r.bounds f given parts) := by
  fun_induction r.bounds f given parts with
  | case1 given e rest ih =>
    exact Eval.keepsBind (keeping.evaluate f e) fun _ => Eval.keepsBind ih fun _ => Eval.keepsPure _
  | case2 given rest ih => exact Eval.keepsBind ih fun _ => Eval.keepsPure _
  | case3 => exact Eval.keepsPure _

omit lasting in
theorem namedArgumentsKeeps (f : Frame) (keywords : List Keyword) : Eval.Keeps I (r.namedArguments f keywords) := by
  refine (Eval.keepsClosed I).flatMapM (fun k => ?_) keywords
  split
  · exact Eval.keepsBind (keeping.evaluate f _) fun _ => Eval.keepsPure _
  · exact Eval.keepsBind (keeping.evaluate f _) fun _ => Eval.keepsAnswer _

omit lasting in
theorem chainKeeps (f : Frame) (a : Datum) (links : List (String × Expr)) : Eval.Keeps I (r.chain f a links) := by
  induction links generalizing a with
  | nil => exact Eval.keepsPure _
  | cons link rest ih =>
    refine Eval.keepsBind (keeping.evaluate f _) fun b => Eval.keepsSeen fun _ _ =>
      Eval.keepsBind (Eval.keepsAnswer _) fun holds => ?_
    split
    · exact ih b
    · exact Eval.keepsPure _

theorem firstWithKeeps (f : Frame) (truth : Bool) (parts : List Expr) : Eval.Keeps I (r.firstWith f truth parts) := by
  induction parts with
  | nil => exact Eval.keepsPure _
  | cons e rest ih =>
    cases rest with
    | nil => exact keeping.evaluate f e
    | cons next rest =>
      refine Eval.keepsBind (keeping.evaluate f e) fun d =>
        Eval.keepsBind (Eval.keepsLift (truthKeeps lasting keeping d)) fun b => ?_
      split
      · exact Eval.keepsPure _
      · exact ih

omit lasting in
theorem entriesKeeps (f : Frame) (before : List (Datum × Datum)) (arePairs : List Bool) (parts : List Expr) :
    Eval.Keeps I (r.entries f before arePairs parts) := by
  fun_induction r.entries f before arePairs parts with
  | case1 before more key value rest ih =>
    exact Eval.keepsBind (keeping.evaluate f key) fun _ => Eval.keepsBind (keeping.evaluate f value) fun _ =>
      Eval.keepsSeen fun _ _ => Eval.keepsBind (Eval.keepsAnswer _) ih
  | case2 before more whole rest ih =>
    refine Eval.keepsBind (keeping.evaluate f whole) fun d => ?_
    split
    · exact Eval.keepsSeen fun _ _ => Eval.keepsBind (Eval.keepsAnswer _) ih
    · exact Eval.keepsThrow _
  | case3 => exact Eval.keepsPure _

/-! Comprehensions. -/

theorem clausesKeeps {element : Frame → Eval Datum} (each : ∀ f, Eval.Keeps I (element f)) (f : Frame)
    (pending : Nat) (loops : List Loop) (parts : List Expr) :
    Eval.Keeps I (r.clauses element f pending loops parts) := by
  fun_induction r.clauses element f pending loops parts with
  | case1 f pending loops condition rest ih =>
    refine Eval.keepsBind (keeping.evaluate f condition) fun d =>
      Eval.keepsBind (Eval.keepsLift (truthKeeps lasting keeping d)) fun b => ?_
    split
    · exact ih
    · exact Eval.keepsPure _
  | case2 f l loops target source rest ih =>
    refine Eval.keepsBind (keeping.evaluate f source) fun d => Eval.keepsBind (keeping.elements f d) fun items =>
      (Eval.keepsClosed I).flatMapM (fun x => ?_) items
    exact Eval.keepsBind (Eval.keepsAnswer _) ih
  | case3 _ f => exact Eval.keepsBind (each f) fun _ => Eval.keepsPure _
  | case4 => exact Eval.keepsThrow _

theorem collectKeeps (f : Frame) (collection : Collection) (loops : List Loop) (parts : List Expr) :
    Eval.Keeps I (r.collect f collection loops parts) := by
  have clauses {element : Frame → Eval Datum} (each : ∀ f, Eval.Keeps I (element f)) (parts : List Expr) :
      Eval.Keeps I (r.clauses element f 0 loops parts) := clausesKeeps lasting keeping each f 0 loops parts
  unfold collect
  split
  · rename_i key value rest
    refine Eval.keepsBind (clauses (fun g => ?_) rest) fun _ => Eval.keepsSeen fun _ _ =>
      Eval.keepsBind (Eval.keepsAnswer _) fun _ => Eval.keepsPure _
    exact Eval.keepsBind (keeping.evaluate g key) fun _ => Eval.keepsBind (keeping.evaluate g value) fun _ =>
      Eval.keepsPure _
  · exact Eval.keepsBind (clauses (keeping.evaluate · _) _) fun _ => setFromKeeps _
  · exact Eval.keepsBind (clauses (keeping.evaluate · _) _) fun _ => Eval.keepsPure _
  · exact Eval.keepsThrow _

theorem runThroughKeeps (f : Frame) (d : Datum) : Eval.Keeps I (r.runThrough f d) := by
  have known : ∀ d, Eval.Keeps I (liftM (r.componentsIn d)) := fun d =>
    Eval.keepsLift (componentsInKeeps lasting keeping d)
  unfold runThrough
  split
  · exact Eval.keepsBind (collectKeeps lasting keeping _ _ _ _) known
  · exact known _

/-! Expressions. -/

omit lasting in
theorem operateKeeps (f : Frame) (first : Datum) (links : List (String × Expr)) :
    Eval.Keeps I (r.operate f first links) := by
  refine (Eval.keepsClosed I).foldlM (fun a link => ?_) links first
  exact Eval.keepsBind (keeping.evaluate f _) fun _ => Eval.keepsSeen fun _ _ => Eval.keepsAnswer _

theorem formKeeps (f : Frame) (e : Expr) (form : Form) (parts : List Expr) : Eval.Keeps I (r.form f e form parts) := by
  have evaluate := keeping.evaluate f
  have evaluateAll : Eval.Keeps I (parts.forM fun p => discard (r.evaluate f p)) :=
    (Eval.keepsClosed I).forM (fun p => Eval.keepsDiscard (evaluate p)) parts
  have truth : ∀ d, Eval.Keeps I (liftM (r.truth d)) := fun d => Eval.keepsLift (truthKeeps lasting keeping d)
  unfold Reach.form
  split
  case h_1 => exact Eval.keepsPure _
  case h_2 => exact Eval.keepsPure _
  case h_3 => exact Eval.keepsBind evaluateAll fun _ => Eval.keepsPure _
  case h_4 => exact Eval.keepsBind (evaluate _) fun _ => Eval.keepsBind (Eval.keepsModify _) fun _ => Eval.keepsPure _
  case h_5 =>
    exact Eval.keepsBind ((Eval.keepsClosed I).mapM evaluate _) fun _ => Eval.keepsBind Eval.keepsBound fun _ =>
      Eval.keepsPure _
  case h_6 => exact Eval.keepsBind (evaluate _) fun _ => Eval.keepsBind (truth _) fun _ => Eval.keepsPure _
  case h_7 => exact Eval.keepsBind (evaluate _) fun _ => Eval.keepsAnswer _
  case h_8 => exact Eval.keepsBind (evaluate _) fun _ => operateKeeps keeping f _ _
  case h_9 => exact Eval.keepsBind (evaluate _) fun _ => chainKeeps keeping f _ _
  case h_10 => exact firstWithKeeps lasting keeping f _ _
  case h_11 => exact firstWithKeeps lasting keeping f _ _
  case h_12 condition value otherwise =>
    refine Eval.keepsBind (evaluate condition) fun d => Eval.keepsBind (truth d) fun b => ?_
    split
    · exact evaluate value
    · exact evaluate otherwise
  case h_13 => exact Eval.keepsBind (rowKeeps keeping f _) fun _ => setFromKeeps _
  case h_14 => exact Eval.keepsBind (entriesKeeps keeping f _ _ _) fun _ => Eval.keepsPure _
  case h_15 => exact Eval.keepsBind evaluateAll fun _ => Eval.keepsPure _
  case h_16 =>
    exact Eval.keepsBind (evaluate _) fun _ => Eval.keepsBind (Eval.keepsDiscard (keeping.elements f _)) fun _ =>
      Eval.keepsBind Eval.keepsBound fun _ => Eval.keepsPure _
  case h_17 => exact collectKeeps lasting keeping f _ _ _
  case h_18 => exact Eval.keepsThrow _

theorem expressionKeeps (f : Frame) (e : Expr) : Eval.Keeps I (r.expression f e) := by
  have evaluate := keeping.evaluate f
  unfold expression
  split
  case h_1 => exact Eval.keepsBind Eval.keepsBound fun _ => Eval.keepsAnswer _
  case h_2 => exact Eval.keepsPure _
  case h_3 => exact Eval.keepsThrow _
  case h_4 => exact Eval.keepsBind (rowKeeps keeping f _) fun _ => Eval.keepsPure _
  case h_5 => exact Eval.keepsBind (rowKeeps keeping f _) fun _ => Eval.keepsPure _
  case h_6 => exact Eval.keepsBind (evaluate _) fun d => Eval.keepsLift (attributeOfKeeps keeping d _)
  case h_7 =>
    exact Eval.keepsBind (evaluate _) fun _ => Eval.keepsBind (boundsKeeps keeping f _ _) fun _ =>
      Eval.keepsSeen fun _ _ => Eval.keepsAnswer _
  case h_8 =>
    exact Eval.keepsBind (evaluate _) fun d => Eval.keepsBind (evaluate _) fun _ =>
      Eval.keepsBind (Eval.keepsLift (refuseKeeps lasting keeping d _)) fun _ =>
        Eval.keepsSeen fun _ _ => Eval.keepsAnswer _
  case h_9 callee args keywords =>
    refine Eval.keepsBind (evaluate callee) fun called => Eval.keepsBind (rowKeeps keeping f args) fun places =>
      Eval.keepsBind (namedArgumentsKeeps keeping f keywords) fun names => ?_
    have applied := keeping.apply f called ⟨places, names⟩
    split
    · exact Eval.keepsBind (Eval.keepsThrow _) fun _ => applied
    · exact applied
  case h_10 => exact formKeeps lasting keeping f _ _ _

end Reach

theorem reachKeeps (lasting : Lasting own I)
    (filled : ∀ n, (reach n).Keeping own I → ∀ {o g}, own o g → Act.Keeps I ((reach n).runGetter o g)) (n : Nat) :
    (reach n).Keeping own I := by
  induction n with
  | zero => exact Reach.nowhereKeeps
  | succ n ih =>
    exact {
      evaluate := fun f e => Reach.expressionKeeps lasting ih f e
      elements := fun f d => Reach.runThroughKeeps lasting ih f d
      apply := fun f called given => Reach.callKeeps lasting ih f called given
      read := fun o name => Reach.readThroughKeeps lasting ih o name
      run := fun mine => filled n ih mine }

theorem reachKeepsStored (stored : ∀ w o name d, I w → I (w.setCell o name d))
    (pushed : ∀ w label c, I w → I (w.push label c)) (n : Nat) : (reach n).Keeping (fun _ _ => True) I := by
  have lasting : Lasting (fun _ _ => True) I :=
    ⟨fun o d => stored _ o attachmentField d, fun label c => pushed _ label c, fun _ _ => trivial⟩
  exact reachKeeps lasting (fun n keeping _ _ _ => Reach.runGetterKeeps lasting keeping fun field _ _ _ w =>
    stored w _ field) n

end AccessorForge.Hosting
