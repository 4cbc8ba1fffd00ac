import AccessorForge.Proofs.Keeping
/-! What evaluation keeps of the world. It writes to the world in few places: hosts keep their components, objects
are made, and accessors fill their fields. A property that these keep is kept by every expression. -/
namespace AccessorForge.Hosting
open Act Syntax
variable {α : Type} {own : ObjectId → Getter → Prop} {I : World → Prop} {r : Reach}

/-- The hosts' own writes keep the property, and where it holds an object's accessors are its own. -/
structure Lasting (own : ObjectId → Getter → Prop) (I : World → Prop) : Prop where
  attached {w : World} (o : ObjectId) (d : Datum) (holds : I w) : I (w.setCell o attachmentField d)
  pushed {w : World} (label : String) (c : ClassId) (holds : I w) : I (w.push label c)
  owned {w : World} {o : ObjectId} {name : String} {g : Getter} (holds : I w) (found : w.accessor? o name = some g) :
    own o g

theorem World.pushAccessor (w : World) (label : String) (c : ClassId) (name : String) :
    (w.push label c).accessor? w.objects.length name = w.classes.accessor? c name := by
  have last : (w.push label c).classOf w.objects.length = c := by
    unfold World.classOf World.push
    simp
  unfold World.accessor?
  rw [last]
  rfl

namespace Reach

/-- All that lies one step further keeps the property. -/
structure Keeping (own : ObjectId → Getter → Prop) (I : World → Prop) (r : Reach) : Prop where
  evaluate (f : Frame) (e : Expr) : Eval.Keeps I (r.evaluate f e)
  elements (f : Frame) (d : Datum) : Eval.Keeps I (r.elements f d)
  apply (f : Frame) (called : Datum) (given : Given) : Eval.Keeps I (r.apply f called given)
  read (o : ObjectId) (name : String) : Act.Keeps I (r.read o name)
  run {o : ObjectId} {g : Getter} (mine : own o g) : Act.Keeps I (r.run o g)

theorem nowhereKeeps : nowhere.Keeping own I :=
  ⟨fun _ _ => Eval.keepsThrow _, fun _ _ => Eval.keepsThrow _, fun _ _ _ => Eval.keepsThrow _,
    fun _ _ => keepsThrow _, fun _ => keepsThrow _⟩

variable (lasting : Lasting own I) (keeping : r.Keeping own I)
include lasting keeping

omit lasting in
theorem runInsteadKeeps {o : ObjectId} {g : Getter} (mine : own o g) : Act.Keeps I (r.runInstead o g : Act α) :=
  keepsBind (keepsDiscard (keeping.run mine)) fun _ => keepsThrow _

theorem refuseKeeps (d : Datum) (names : List String) : Act.Keeps I (r.refuse d names) := by
  unfold refuse
  split
  · rename_i o
    refine keepsSeen fun w holds => ?_
    split
    · rename_i getter found
      obtain ⟨name, _, found⟩ := List.exists_of_findSome?_eq_some found
      exact runInsteadKeeps keeping (lasting.owned holds found)
    · exact keepsPure _
  · exact keepsPure _

omit lasting in
theorem saidClassKeeps (o : ObjectId) : Act.Keeps I (r.saidClass o) := by
  refine keepsCatch (keeping.read o _) fun e => ?_
  split
  · exact keepsPure _
  · exact keepsThrow _

theorem isOfTypeKeeps (x : Datum) (depth : Nat) (type : Datum) : Act.Keeps I (r.isOfType x depth type) := by
  induction depth generalizing type with
  | zero => exact keepsThrow _
  | succ depth ih =>
    unfold isOfType
    refine keepsSeen fun w _ => ?_
    split
    · exact (keepsClosed I).anyM ih _
    · exact (keepsClosed I).anyM ih _
    · refine keepsBind (refuseKeeps lasting keeping _ _) fun _ => keepsBind (keepsCatch (keeping.read _ _) fun e => ?_)
        fun _ => keepsThrow _
      split
      · exact keepsPure _
      · exact keepsThrow _
    · refine keepsBind (keepsAnswer _) fun b => ?_
      split
      · exact keepsPure _
      · refine keepsBind (saidClassKeeps keeping _) fun c => ?_
        split
        · exact keepsSeen fun _ _ => keepsAnswer _
        · exact keepsPure _
    · exact keepsAnswer _

theorem truthKeeps (d : Datum) : Act.Keeps I (r.truth d) :=
  keepsBind (refuseKeeps lasting keeping _ _) fun _ => keepsPure _

omit lasting in
theorem attributeOfKeeps (d : Datum) (name : String) : Act.Keeps I (r.attributeOf d name) := by
  unfold attributeOf
  split
  · exact keeping.read _ _
  · exact keepsSeen fun _ _ => keepsAnswer _
  · exact keepsAnswer _
  · exact keepsSeen fun _ _ => keepsAnswer _

/-! Hosts. -/

theorem componentsInKeeps (d : Datum) : Act.Keeps I (r.componentsIn d) :=
  keepsBind (keepsCatch (refuseKeeps lasting keeping _ _) fun _ => keepsThrow _) fun _ =>
    keepsBind (refuseKeeps lasting keeping _ _) fun _ => keepsOption _

theorem firstOfKeeps (items : List Datum) (type : Datum) : Act.Keeps I (r.firstOf items type) :=
  keepsBind ((keepsClosed I).findM (fun _ => isOfTypeKeeps lasting keeping _ _ _) _) fun _ => keepsPure _

theorem attachmentOfKeeps (o : ObjectId) : Act.Keeps I (r.attachmentOf o) := by
  refine keepsSeen fun w holds => ?_
  cases found : w.accessor? o "__dict__" with
  | some getter => exact keepsBind (keepsDiscard (keeping.run (lasting.owned holds found))) fun _ => keepsThrow _
  | none =>
    refine keepsGuard fun _ => ?_
    split
    · exact keepsBind (keepsSet (lasting.attached o _ holds)) fun _ => keepsPure _
    · exact keepsBind (keepsSet (lasting.attached o _ holds)) fun _ => keepsPure _
    · exact keepsPure _

theorem attachmentKeeps (o : ObjectId) : Act.Keeps I (r.attachment o) := by
  refine keepsBind (keeping.read o _) fun d => ?_
  split
  · exact attachmentOfKeeps lasting keeping _
  · exact keepsThrow _

theorem applyMethodKeeps (o : ObjectId) (m : HostMethod) (given : Given) : Act.Keeps I (r.applyMethod o m given) := by
  have attachment := attachmentKeeps lasting keeping o
  cases m with
  | attachedComponents =>
    unfold applyMethod
    dsimp only
    split
    · exact attachmentOfKeeps lasting keeping o
    · exact keepsThrow _
  | getComponent =>
    exact keepsBind (keepsOption _) fun type => keepsBind attachment fun kept =>
      keepsBind (componentsInKeeps lasting keeping _) fun items => firstOfKeeps lasting keeping _ _
  | addComponent =>
    refine keepsBind (keepsOption _) fun x => keepsBind attachment fun kept => ?_
    split
    · exact keepsBind (keepsModify fun w => lasting.attached o _) fun _ => keepsPure _
    · exact keepsBind (keepsDiscard (attributeOfKeeps keeping _ _)) fun _ => keepsThrow _
  | removeComponent =>
    refine keepsBind (keepsOption _) fun x => keepsBind attachment fun kept =>
      keepsBind (componentsInKeeps lasting keeping _) fun items => ?_
    split
    · exact keepsPure _
    · split
      · exact keepsBind (keepsModify fun w => lasting.attached o _) fun _ => keepsPure _
      · exact keepsThrow _

/-! Attributes. -/

theorem insteadKeeps {w : World} (holds : I w) (o : ObjectId) (name : String) {rest : PUnit → Act α}
    (kept : ∀ u, Act.Keeps I (rest u)) :
    Act.Keeps I (match w.accessor? o name with
      | some getter => r.runInstead o getter >>= rest
      | _ => rest ⟨⟩) := by
  split
  · rename_i getter found
    exact keepsBind (runInsteadKeeps keeping (lasting.owned holds found)) kept
  · exact kept _

theorem assignKeeps (o : ObjectId) (name : String) (d : Datum) (stored : ∀ w, I w → I (w.setCell o name d)) :
    Act.Keeps I (r.assign o name d) :=
  keepsSeen fun w holds => insteadKeeps lasting keeping holds o _ fun _ => keepsGuard fun _ => keepsGuard fun _ =>
    keepsGuard fun _ => keepsGuard fun _ => keepsGuard fun _ => keepsSet (stored w holds)

theorem runGetterKeeps {o : ObjectId} {g : Getter}
    (stored : ∀ field fill origin, g = .lookup field fill origin → ∀ w d, I w → I (w.setCell o field d)) :
    Act.Keeps I (r.runGetter o g) := by
  unfold runGetter
  split
  · exact keepsPure _
  · rename_i field fill origin
    split
    · exact keepsPure _
    · refine keepsBind (keeping.read o field) fun cached => keepsBind (keepsAnswer _) fun mark => ?_
      have assigned := fun d => assignKeeps lasting keeping o field d fun w => stored field fill origin rfl w d
      split
      · exact keepsBind (Eval.keepsRun (keeping.evaluate _ _) _) fun d => keepsBind (assigned d) fun _ =>
          keeping.read o field
      · exact keeping.read o field

theorem readOwnKeeps (o : ObjectId) (name : String) : Act.Keeps I (r.readOwn o name) := by
  refine keepsSeen fun w holds => ?_
  split
  · rename_i v getter found
    have taken : w.accessor? o name = some getter := by
      unfold World.accessor? ClassTable.accessor?
      unfold World.slot? at found
      rw [found]
    exact keeping.run (lasting.owned holds taken)
  · exact keepsBind (attachmentKeeps lasting keeping o) fun _ =>
      keepsBind (componentsInKeeps lasting keeping _) fun _ => keepsPure _
  · split
    · exact keepsPure _
    · exact keepsPure _
    · exact keepsAnswer _
    · exact keepsAnswer _
    · exact keepsPure _

theorem readThroughKeeps (o : ObjectId) (name : String) : Act.Keeps I (r.readThrough o name) := by
  refine keepsSeen fun w holds => insteadKeeps lasting keeping holds o _ fun _ => ?_
  have read := readOwnKeeps lasting keeping o name
  split
  · exact read
  · rename_i getter found
    refine keepsCatch read fun e => ?_
    split
    · exact runInsteadKeeps keeping (lasting.owned holds found)
    · exact keepsThrow _

theorem createKeeps (label : String) (c : ClassId) : Act.Keeps I (r.create label c) := by
  refine keepsSeen fun w holds => keepsGuard fun _ => ?_
  have made := lasting.pushed label c holds
  refine keepsBind (keepsSet made) fun _ => ?_
  rw [← World.pushAccessor w label c]
  exact insteadKeeps lasting keeping made _ _ fun _ => keepsPure _

/-! Calls. -/

omit lasting keeping in
theorem orElseMissingKeeps {a otherwise : Act Datum} (first : Act.Keeps I a) (second : Act.Keeps I otherwise) :
    Act.Keeps I (orElseMissing a otherwise) := by
  refine keepsCatch first fun e => ?_
  split
  · exact second
  · exact keepsThrow _

omit lasting keeping in
theorem setFromKeeps (items : List Datum) : Eval.Keeps I (setFrom items) :=
  Eval.keepsSeen fun _ _ => Eval.keepsAnswer _

omit lasting keeping in
theorem rangeKeeps (row : List Datum) : Eval.Keeps I (range row) := by
  unfold range
  repeat' split
  all_goals with_reducible first
    | exact Eval.keepsPure _
    | exact Eval.keepsThrow _

theorem applyScalarClassKeeps (name : String) (row : List Datum) : Eval.Keeps I (r.applyScalarClass name row) := by
  unfold applyScalarClass
  split
  case h_3 d => exact Eval.keepsBind (Eval.keepsLift (truthKeeps lasting keeping d)) fun _ => Eval.keepsPure _
  case h_11 d x =>
    refine Eval.keepsBind (Eval.keepsLift (isOfTypeKeeps lasting keeping x _ d)) fun _ => ?_
    split
    · exact Eval.keepsPure _
    · exact Eval.keepsThrow _
  all_goals (try split)
  all_goals with_reducible first
    | exact Eval.keepsPure _
    | exact Eval.keepsAnswer _
    | exact Eval.keepsThrow _

omit lasting in
theorem applyCollectionClassKeeps (f : Frame) (name : String) (row : List Datum) :
    Eval.Keeps I (r.applyCollectionClass f name row) := by
  have elements := keeping.elements f
  unfold applyCollectionClass
  split
  case h_2 d => exact Eval.keepsBind (elements d) fun _ => Eval.keepsPure _
  case h_4 d => exact Eval.keepsBind (elements d) fun _ => Eval.keepsPure _
  case h_7 d => exact Eval.keepsBind (elements d) fun _ => setFromKeeps _
  case h_8 d => exact Eval.keepsBind (elements d) fun _ => setFromKeeps _
  case h_11 d _ =>
    refine Eval.keepsBind (elements d) fun rows => Eval.keepsBind ((Eval.keepsClosed I).mapM (fun x => ?_) rows)
      fun pairs => Eval.keepsSeen fun w _ => Eval.keepsBind (Eval.keepsAnswer _) fun _ => Eval.keepsPure _
    exact Eval.keepsBind (elements x) fun _ => Eval.keepsPure _
  case h_12 d => exact Eval.keepsBind (Eval.keepsOption _) fun _ => Eval.keepsPure _
  case h_13 d => exact Eval.keepsBind (elements d) fun _ => Eval.keepsPure _
  case h_14 => exact Eval.keepsBind ((Eval.keepsClosed I).mapM elements _) fun _ => Eval.keepsPure _
  case h_15 => exact rangeKeeps _
  all_goals with_reducible first
    | exact Eval.keepsPure _
    | exact Eval.keepsThrow _

theorem applyClassKeeps (f : Frame) (name : String) (given : Given) : Eval.Keeps I (r.applyClass f name given) := by
  unfold applyClass
  split
  · exact Eval.keepsSeen fun _ _ => Eval.keepsPure _
  · exact Eval.keepsPure _
  · split
    · exact Eval.keepsBind (Eval.keepsThrow _) fun _ => Eval.keepsPure _
    · exact Eval.keepsPure _
  · exact Eval.keepsThrow _
  · split
    · exact applyCollectionClassKeeps keeping _ _ _
    · exact applyScalarClassKeeps lasting keeping _ _

theorem applyQuestionKeeps (name : String) (row : List Datum) : Eval.Keeps I (r.applyQuestion name row) := by
  have attributed := attributeOfKeeps keeping
  unfold applyQuestion
  split
  case h_1 d type =>
    exact Eval.keepsBind (Eval.keepsLift (isOfTypeKeeps lasting keeping d _ type)) fun _ => Eval.keepsPure _
  case h_2 d type =>
    have asked : Eval.Keeps I (do
        return Datum.flag (← ofAnswer (Operation.isInstance (← getThe World) d Datum.maxDepth type))) :=
      Eval.keepsSeen fun _ _ => Eval.keepsBind (Eval.keepsAnswer _) fun _ => Eval.keepsPure _
    split
    · exact Eval.keepsBind (Eval.keepsThrow _) fun _ => asked
    · exact asked
  case h_3 d attr => exact Eval.keepsLift (attributed d attr)
  case h_4 d attr other => exact Eval.keepsLift (orElseMissingKeeps (attributed d attr) (keepsPure _))
  case h_5 d attr =>
    exact Eval.keepsLift (orElseMissingKeeps (keepsBind (attributed d attr) fun _ => keepsPure _) (keepsPure _))
  case h_6 d => exact Eval.keepsLift (orElseMissingKeeps (attributed d _) (keepsThrow _))
  case h_7 d =>
    exact Eval.keepsBind (Eval.keepsLift (refuseKeeps lasting keeping d _)) fun _ =>
      Eval.keepsBind (Eval.keepsOption _) fun _ => Eval.keepsPure _
  all_goals (try split)
  all_goals with_reducible first
    | exact Eval.keepsPure _
    | exact Eval.keepsAnswer _
    | exact Eval.keepsThrow _

theorem applyThroughKeeps (name : String) (items more : List Datum) :
    Eval.Keeps I (r.applyThrough name items more) := by
  have truth : ∀ x, Eval.Keeps I (liftM (r.truth x)) := fun x => Eval.keepsLift (truthKeeps lasting keeping x)
  unfold applyThrough
  split
  case h_2 => exact Eval.keepsSeen fun _ _ => Eval.keepsBind (Eval.keepsAnswer _) fun _ => Eval.keepsPure _
  case h_3 => exact Eval.keepsSeen fun _ _ => Eval.keepsAnswer _
  case h_4 => exact Eval.keepsSeen fun _ _ => Eval.keepsAnswer _
  case h_5 => exact Eval.keepsSeen fun _ _ => Eval.keepsAnswer _
  case h_6 => exact Eval.keepsSeen fun _ _ => Eval.keepsAnswer _
  case h_7 => exact Eval.keepsBind ((Eval.keepsClosed I).anyM truth _) fun _ => Eval.keepsPure _
  case h_8 => exact Eval.keepsBind ((Eval.keepsClosed I).allM truth _) fun _ => Eval.keepsPure _
  all_goals (try split)
  all_goals with_reducible first
    | exact Eval.keepsPure _
    | exact Eval.keepsThrow _

theorem applyFunctionKeeps (f : Frame) (name : String) (given : Given) :
    Eval.Keeps I (r.applyFunction f name given) := by
  have through := applyThroughKeeps lasting keeping
  unfold applyFunction
  split
  case h_4 => exact Eval.keepsBind Eval.keepsBound fun _ => Eval.keepsPure _
  case h_5 => exact Eval.keepsBind Eval.keepsBound fun _ => Eval.keepsPure _
  case h_6 => exact through _ _ _
  case h_7 => exact through _ _ _
  case h_8 d more _ =>
    have next : Eval.Keeps I (do r.applyThrough "next" (← r.elements f d) more) :=
      Eval.keepsBind (keeping.elements f d) fun _ => through _ _ _
    split
    · exact Eval.keepsBind (Eval.keepsThrow _) fun _ => next
    · exact next
  case h_9 => exact applyQuestionKeeps lasting keeping _ _
  case h_10 =>
    split
    · exact Eval.keepsBind (keeping.elements f _) fun _ => through _ _ _
    · exact applyQuestionKeeps lasting keeping _ _
  all_goals with_reducible first
    | exact Eval.keepsPure _
    | exact Eval.keepsThrow _

omit lasting in
theorem applyClassMethodKeeps (f : Frame) (owner : Datum) (name : String) (given : Given) :
    Eval.Keeps I (r.applyClassMethod f owner name given) := by
  refine Eval.keepsSeen fun w _ => ?_
  split
  · exact keeping.apply f owner given
  · exact Eval.keepsPure _
  · exact Eval.keepsPure _
  · exact Eval.keepsPure _
  · exact Eval.keepsPure _
  · exact Eval.keepsThrow _

omit lasting in
theorem applyClosureKeeps (f : Frame) (parameters : List Parameter) (body : Expr) (defaults : List Datum)
    (seen : Ledger Datum) (given : Given) :
    Eval.Keeps I (r.applyClosure f parameters body defaults seen given) := by
  refine Eval.keepsBind (Eval.keepsOption _) fun arguments => ?_
  split
  · exact Eval.keepsPure _
  · exact Eval.keepsBind Eval.keepsBound fun _ => Eval.keepsBind (Eval.keepsRebound _) fun _ =>
      Eval.keepsBind (keeping.evaluate _ body) fun _ => Eval.keepsBind (Eval.keepsRebound _) fun _ => Eval.keepsPure _

theorem callKeeps (f : Frame) (called : Datum) (given : Given) : Eval.Keeps I (r.call f called given) := by
  unfold call
  split
  · split
    · exact Eval.keepsBind (Eval.keepsLift (createKeeps lasting keeping _ _)) fun _ => Eval.keepsPure _
    · exact Eval.keepsThrow _
  · exact applyClassKeeps lasting keeping f _ given
  · exact applyFunctionKeeps lasting keeping f _ given
  · exact Eval.keepsLift (applyMethodKeeps lasting keeping _ _ given)
  · exact applyClassMethodKeeps keeping f _ _ given
  · exact keeping.apply f _ given
  · exact Eval.keepsBind (Eval.keepsOption _) fun _ => applyClosureKeeps keeping f _ _ _ _ given
  · refine Eval.keepsBind (Eval.keepsLift (refuseKeeps lasting keeping _ _)) fun _ => ?_
    split
    · exact Eval.keepsPure _
    · exact Eval.keepsThrow _

end Reach

end AccessorForge.Hosting
