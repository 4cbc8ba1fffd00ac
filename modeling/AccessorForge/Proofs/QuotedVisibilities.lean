import AccessorForge.Proofs.ClassNames
import AccessorForge.Proofs.Merging
import AccessorForge.Proofs.MixinText
import AccessorForge.Proofs.Running
/-! Visibilities, from the decorators that ask for them to the accessors that get them. A visibility is any text. It is
written as one plain literal on a line of its own, and read back it is the same text, so that nothing in it can end
the literal or the line. -/
namespace AccessorForge
open Syntax Syntax.Reader Syntax.Grammar
open Lexer (Lexes isQuote literalPrefix literalBody)

/-! Expressions that are a whole text. -/

section
variable {text : List Char} {l : Look} {before : List Look} {Q : Expr → Prop}

theorem lexesTop {c : Char} {rest : List Char} {looks : List Look} (plain : c ∉ [' ', '\t', '\x0c', '\\', '\n', '#'])
    (inside : Lexes [] [] false (c :: rest) looks) : Lexes [] [] true (c :: rest) looks := by
  have settles : Lexer.Settles [] 0 [] [] := fun pos => ⟨[], rfl, rfl⟩
  exact Lexer.lexesLineStart plain settles inside

theorem readWhole (noReturn : ∀ c ∈ text, c ≠ '\r') (begins : Begins l)
    (lexes : Lexes [] [] true text (l :: before ++ [(.ending, "")]))
    (reads : ∀ limit, 1 < limit → Reads limit (l :: before ++ [(.ending, "")]) (primary (rules (text.length + 1)))
      [(.ending, "")] Q) :
    ∃ ts e, expressionTokens text = some ts ∧ ts.map Token.look = l :: before ++ [(.ending, "")] ∧
      readExpression text = some e ∧ Q e := by
  obtain ⟨ts, cut, seen⟩ := expressionLooks noReturn lexes
  have room : 1 < ts.length + 1 := by
    have count := congrArg List.length seen
    simp only [List.length_map, List.cons_append, List.length_cons] at count
    omega
  have noNewline : Tells (.ending, "") (isKind .newline) false := tellsKind _ _
  have whole : Reads (ts.length + 1) (l :: before ++ [(.ending, "")]) (do
      let e ← tupleOf (rules (text.length + 2)).expression
      let _ ← repeated do
        if ← takeIf (isKind .newline) then return some () else return none
      layout .ending
      return e) [] Q := by
    refine readsBind (readsSingle room (by decide) (readsDeepExpression room begins (by decide) (reads _ room)))
      fun e fine => ?_
    refine readsBind (readsNone (Nat.zero_lt_of_lt room) (readsLeave noNewline (readsPure rfl))) fun _ _ => ?_
    exact readsBind (readsLayout .ending "") fun _ _ => readsPure fine
  obtain ⟨e, c, ran, -, -, fine⟩ := whole (Cursor.start ts) seen rfl
  refine ⟨ts, e, cut, seen, ?_, fine⟩
  rw [readExpression, cut]
  exact congrArg (Option.map Prod.fst) ran

end

/-! The literal. -/

/-- Characters at which a text is parted into lines. -/
def lineBreaks : List Char := ['\n', '\r', '\x0b', '\x0c', '\x1c', '\x1d', '\x1e', '\x85', '\u2028', '\u2029']

theorem shownUnbroken {c : Char} (shown : Text.Printable.isPrintable c) : c ∉ lineBreaks := by
  intro listed
  have told : lineBreaks.all (!Text.Printable.isPrintable ·) := by decide +kernel
  have other := List.all_eq_true.mp told c listed
  simp [shown] at other

theorem quotedUnbroken (v : String) : ∀ c ∈ (Text.Quoted.quote v).toList, c ∉ lineBreaks := by
  rw [Text.Quoted.quote, String.toList_ofList]
  exact fun c within => shownUnbroken (Literal.quotedShown _ c within)

theorem noReturnIf {text : List Char} (unbroken : ∀ c ∈ text, c ∉ lineBreaks) : ∀ c ∈ text, c ≠ '\r' :=
  fun c within same => unbroken c within (by simp [same, lineBreaks])

theorem quotedPlain {mark : Char} (quotes : isQuote mark) : mark ∉ [' ', '\t', '\x0c', '\\', '\n', '#'] := by
  rcases Literal.quoteCases quotes with rfl | rfl <;> decide

/-- The text is a single literal without letters before its marks. Read as an expression it has this value, and
wherever it stands it ends where it ends here. -/
structure Quotes (text value : String) : Prop where
  bare : literalPrefix text.toList = some []
  single : (expressionTokens text.toList).map (·.map Token.look) = some [(.string, text), (.ending, "")]
  read : ∃ span, readExpression text.toList = some (.text span value)
  closed : ∀ rest, (∀ d ∈ rest.head?, isQuote d = false) →
    literalBody (text.toList ++ rest) = some (text.toList, rest)

theorem quotesItself (v : String) : Quotes (Text.Quoted.quote v) v := by
  obtain ⟨mark, body, quotes, quoted, spelled⟩ := Literal.quotedSpells v.toList
  have text : (Text.Quoted.quote v).toList = mark :: body ++ [mark] := by
    rw [Text.Quoted.quote, String.toList_ofList, quoted]
  have whole : String.ofList (mark :: body ++ [mark]) = Text.Quoted.quote v := by rw [← text, String.ofList_toList]
  have notSlash : mark ≠ '\\' := by
    rintro rfl
    exact absurd quotes (by decide)
  have inside : Lexes [] [] false (mark :: body ++ [mark] ++ []) [(.string, Text.Quoted.quote v), (.ending, "")] :=
    whole ▸ Lexer.lexesQuoted quotes spelled (by simp) (Lexer.lexesOut [])
  rw [List.append_nil] at inside
  have lexes : Lexes [] [] true (Text.Quoted.quote v).toList ([(.string, Text.Quoted.quote v)] ++ [(.ending, "")]) := by
    rw [text]
    exact lexesTop (quotedPlain quotes) inside
  obtain ⟨ts, e, cut, seen, read, span, rfl⟩ := readWhole (noReturnIf (quotedUnbroken v)) (.inl rfl) lexes
    fun limit room => readsQuoted room v (by decide)
  refine ⟨?_, ?_, ⟨span, read⟩, fun rest apart => ?_⟩
  · rw [text]
    rcases body with _ | ⟨c, _ | ⟨d, more⟩⟩ <;> simp [literalPrefix, quotes]
  · rw [cut, Option.map_some, seen]
    rfl
  · rw [text, List.append_assoc]
    exact spelled.cutWhole notSlash fun same => absurd quotes (by rw [apart mark same]; decide)

/-! The line. -/

/-- The call that hands a visibility to the helper that makes accessors. -/
def handing (v : String) : String := "component_accessor(" ++ Text.Quoted.quote v ++ ")"

def decorationText (v : String) : String := "    @" ++ handing v

theorem shownTextUnbroken {text : String} (shown : text.toList.all Text.Printable.isPrintable) :
    ∀ c ∈ text.toList, c ∉ lineBreaks :=
  fun c within => shownUnbroken (List.all_eq_true.mp shown c within)

theorem handingChars (v : String) :
    (handing v).toList = "component_accessor(".toList ++ (Text.Quoted.quote v).toList ++ ")".toList := by
  unfold handing
  rw [String.toList_append, String.toList_append]

theorem handingUnbroken (v : String) : ∀ c ∈ (handing v).toList, c ∉ lineBreaks := by
  rw [handingChars]
  exact List.forall_mem_append.mpr ⟨List.forall_mem_append.mpr ⟨shownTextUnbroken (by decide), quotedUnbroken v⟩,
    shownTextUnbroken (by decide)⟩

theorem decorationUnbroken (v : String) : ∀ c ∈ (decorationText v).toList, c ∉ lineBreaks := by
  unfold decorationText
  rw [String.toList_append]
  exact List.forall_mem_append.mpr ⟨shownTextUnbroken (by decide), handingUnbroken v⟩

theorem lexesClosing : Lexes [] [')'] false [')'] [(.operator, ")"), (.ending, "")] := by
  refine Lexer.lexesToken [(.operator, ")")] (by simp) (by simp) (fun pos => ?_) (Lexer.lexesOut [])
  refine ⟨[Lexer.State.tokenOf ⟨[], pos, [], [], false⟩ .operator [')'] (by simp)], pos.advance [')'], ?_, rfl⟩
  rw [Lexer.plainStep rfl (by decide)]
  rfl

theorem handedOn (v : String) : ∃ e, readExpression (handing v).toList = some e ∧ Hosting.visibilityOf [e] = some v := by
  obtain ⟨mark, body, quotes, quoted, spelled⟩ := Literal.quotedSpells v.toList
  have text : (handing v).toList = "component_accessor".toList ++ '(' :: (mark :: body ++ [mark] ++ [')']) := by
    simp [handingChars, Text.Quoted.quote, quoted]
  have whole : String.ofList (mark :: body ++ [mark]) = Text.Quoted.quote v := by rw [Text.Quoted.quote, quoted]
  have literal : Lexes [] [')'] false (mark :: body ++ [mark] ++ [')'])
      [(.string, Text.Quoted.quote v), (.operator, ")"), (.ending, "")] :=
    whole ▸ Lexer.lexesQuoted quotes spelled (by simp [isQuote]) lexesClosing
  have opens : Lexer.Opens mark := by
    rcases Literal.quoteCases quotes with rfl | rfl
    · exact ⟨by decide, rfl⟩
    · exact ⟨by decide, rfl⟩
  have bracket : Lexes [] [] false ('(' :: (mark :: body ++ [mark] ++ [')']))
      [(.operator, "("), (.string, Text.Quoted.quote v), (.operator, ")"), (.ending, "")] :=
    Lexer.lexesMark (by decide : ['('] ∈ Lexer.plainMarks) opens rfl literal
  have named : Text.Identifier.isIdentifier "component_accessor".toList := by decide
  have inside := Lexer.lexesWord named ⟨rfl, rfl⟩ bracket
  obtain ⟨c, more, starts, plain⟩ := wordShows named []
  rw [List.flatMap_singleton, Lexer.Lexeme.chars] at starts
  rw [String.ofList_toList, starts] at inside
  have lexes : Lexes [] [] true (handing v).toList
      ((.name, "component_accessor") :: [(.operator, "("), (.string, Text.Quoted.quote v), (.operator, ")")] ++
        [(.ending, "")]) := by
    rw [text, starts]
    exact lexesTop plain inside
  have begins : Begins (.name, "component_accessor") := nameBegins (by decide)
  obtain ⟨d, deep⟩ : ∃ d, (handing v).toList.length + 1 = d + 2 := by
    rw [text, List.length_append, List.length_cons]
    exact ⟨_, rfl⟩
  have reads (limit : Nat) (room : 1 < limit) : Reads limit ((.name, "component_accessor") ::
      [(.operator, "("), (.string, Text.Quoted.quote v), (.operator, ")")] ++ [(.ending, "")])
      (primary (rules ((handing v).toList.length + 1))) [(.ending, "")] (Decorates v) := by
    rw [deep]
    exact readsHelper room v (by decide)
  obtain ⟨ts, e, cut, seen, read, span, callee, place, rfl⟩ :=
    readWhole (noReturnIf (handingUnbroken v)) begins lexes reads
  exact ⟨_, read, rfl⟩

/-- What the line looks like, its end included. -/
def decorationLooks (v : String) : List Look :=
  [(.operator, "@"), (.name, "component_accessor"), (.operator, "("), (.string, Text.Quoted.quote v), (.operator, ")"),
    lineEnd]

theorem lexesDecoration (v : String) {behind : List Char} {looks : List Look} (tail : Lexes [(4, 4)] [] true behind looks) :
    Lexes [(4, 4)] [] true ((decorationText v).toList ++ '\n' :: behind) (decorationLooks v ++ looks) := by
  obtain ⟨mark, body, quotes, quoted, spelled⟩ := Literal.quotedSpells v.toList
  have whole : String.ofList (mark :: (body ++ [mark])) = Text.Quoted.quote v := by
    rw [Text.Quoted.quote, quoted, List.cons_append]
  have line : textLine 4 (decorationLine mark body) = (decorationText v).toList ++ ['\n'] := by
    unfold decorationText
    simp [textLine, decorationLine, Lexer.Lexeme.chars, handingChars, Text.Quoted.quote, quoted]
  have lexes := lexesTextLine [(4, 4)] 4 [] (runsDecoration quotes spelled) ⟨'@', _, rfl, by decide⟩
    (fun pos => ⟨_, rfl, rfl⟩) tail
  rw [line] at lexes
  simpa [decorationLine, decorationLooks, Lexer.Lexeme.looks, whole, lineEnd] using lexes

theorem renderedLine (a : Accessor) (localModule : Option String) : ∃ ahead behind,
    a.render localModule = ahead ++ "\n" ++ decorationText a.visibility ++ "\n" ++ behind := by
  refine ⟨"    " ++ a.cacheField ++ " = UNRESOLVED\n", String.join ((a.pieces localModule).drop 7), ?_⟩
  refine String.toList_inj.mp ?_
  unfold decorationText
  simp [Accessor.render, Accessor.pieces, handingChars, String.toList_join]

/-! The decorators. -/

def Annotation.visibility : Annotation → String
  | .group visibility _ => visibility
  | .override o => o.visibility

/-- Where a decorator has its visibility, if it is not named. -/
def DecoratorKind.visibilityPlace : DecoratorKind → Nat
  | .group => 0
  | _ => 2

/-- The visibility that a decorator gives as a text; the public one if it gives none. -/
def AsksVisibility (d : Expr) (kind : DecoratorKind) (v : String) : Prop :=
  match argument d "visibility" kind.visibilityPlace with
  | some (.text _ given) => v = given
  | _ => v = publicVisibility

theorem asksAt (d : Expr) (kind : DecoratorKind) :
    AsksVisibility d kind (SourceUnit.visibilityAt d kind.visibilityPlace) := by
  unfold AsksVisibility SourceUnit.visibilityAt
  cases argument d "visibility" kind.visibilityPlace with
  | none => rfl
  | some e => cases e <;> rfl

theorem annotationAsks {u : SourceUnit} {d : Expr} {x : Annotation} (told : annotationAt u d = some x) :
    ∃ kind, decoratorKind d = some kind ∧ AsksVisibility d kind x.visibility := by
  unfold annotationAt at told
  split at told
  · next known =>
    cases told
    exact ⟨_, known, asksAt d .group⟩
  · next known =>
    cases told
    exact ⟨_, known, asksAt d .override⟩
  · cases told

theorem scannedAnnotations {units : List SourceUnit} {c : Container} (scanned : c ∈ scannedContainers units) :
    c.annotations = ((markedSites units).filter (·.fullName = c.fullName)).flatMap Site.annotations := by
  obtain ⟨raw, merged, same⟩ := scannedMerged scanned
  have kept : c.annotations = raw.annotations := by
    rw [same]
    exact mergedAnnotations raw raw.annotations
  rw [kept]
  cases group : (markedSites units).filter (·.fullName = c.fullName) with
  | nil => simp [group, Site.merged] at merged
  | cons first rest =>
    simp only [group, Site.merged, Option.some.injEq] at merged
    rw [← merged]

theorem plannedDecided {units : List SourceUnit} {c : Container} (scanned : c ∈ scannedContainers units) {a : Accessor}
    (planned : a ∈ c.planned) :
    LastOverride c.annotations a.typeName ⟨a.property, a.visibility⟩ ∨
      (∀ e, ¬ LastOverride c.annotations a.typeName e) ∧ LastMarker c.annotations a.visibility := by
  obtain ⟨u, d, fs, same⟩ := scannedFilled scanned
  have aggregated := Container.filledAggregated u d fs
  rw [← same] at aggregated
  have overrides := aggregated.overrides
  have defaults := aggregated.defaults
  rw [← aggregated.annotations] at overrides defaults
  have unique : c.overrides.keys.Nodup := aggregated.overridden ▸ eraseDupsNodup _
  rcases c.plannedAs unique planned with ⟨_, held⟩ | ⟨free, _, marked⟩
  · rw [overrides, lastOverrideIff] at held
    exact .inl held
  · refine .inr ⟨fun e last => free ?_, ?_⟩
    · rw [← lastOverrideIff, ← overrides] at last
      exact List.mem_map.mpr ⟨_, Ledger.memberOfGet last, rfl⟩
    · rwa [← lastMarkerIff, ← defaults]

/-- Whatever a visibility holds, it is written as a single plain literal with no line break in it, and read back it is
the same text. The accessors of a scanned class have the visibilities that its decorators ask for, and hand them on: each
on a line of its own, whose tokens are those of one call with the visibility for its argument. -/
theorem visibilitiesArrive :
    (∀ v : String, (∀ c ∈ (Text.Quoted.quote v).toList, c ∉ lineBreaks) ∧ Quotes (Text.Quoted.quote v) v ∧
      (readExpression (Text.Quoted.quote v).toList).bind literalText = some v ∧
      (∀ c ∈ (decorationText v).toList, c ∉ lineBreaks) ∧
      (∀ behind looks, Lexes [(4, 4)] [] true behind looks →
        Lexes [(4, 4)] [] true ((decorationText v).toList ++ '\n' :: behind) (decorationLooks v ++ looks)) ∧
      ∃ e, readExpression (handing v).toList = some e ∧ Hosting.visibilityOf [e] = some v) ∧
    ∀ units, ∀ c ∈ scannedContainers units,
      (∀ x ∈ c.annotations, ∃ s ∈ markedSites units, s.fullName = c.fullName ∧ ∃ d ∈ s.decorators, ∃ kind,
        annotationAt s.unit d = some x ∧ decoratorKind d = some kind ∧ AsksVisibility d kind x.visibility) ∧
      ∀ a ∈ c.planned,
        (LastOverride c.annotations a.typeName ⟨a.property, a.visibility⟩ ∨
          (∀ e, ¬ LastOverride c.annotations a.typeName e) ∧ LastMarker c.annotations a.visibility) ∧
        ∀ localNames, ∃ ahead behind,
          c.accessorBlock localNames a = ahead ++ "\n" ++ decorationText a.visibility ++ "\n" ++ behind := by
  constructor
  · intro v
    have quotes := quotesItself v
    obtain ⟨span, read⟩ := quotes.read
    refine ⟨quotedUnbroken v, quotes, ?_, decorationUnbroken v, fun behind looks => lexesDecoration v, handedOn v⟩
    rw [read]
    rfl
  · intro units c scanned
    refine ⟨fun x annotated => ?_, fun a planned => ⟨plannedDecided scanned planned, fun localNames => ?_⟩⟩
    · rw [scannedAnnotations scanned] at annotated
      obtain ⟨s, among, said⟩ := List.mem_flatMap.mp annotated
      obtain ⟨marked, named⟩ := List.mem_filter.mp among
      obtain ⟨d, decorated, told⟩ := List.mem_filterMap.mp said
      obtain ⟨kind, known, asks⟩ := annotationAsks told
      exact ⟨s, marked, by simpa using named, d, decorated, kind, told, known, asks⟩
    · obtain ⟨ahead, behind, rendered⟩ :=
        renderedLine a (if Container.isLocal localNames a.typeName then some c.unit.module else none)
      refine ⟨"\n" ++ ahead, behind, ?_⟩
      unfold Container.accessorBlock
      rw [rendered]
      simp only [String.append_assoc]

/-- Both kinds of quote marks, a backslash, line ends of two kinds and half a surrogate pair. -/
def oddText : String :=
  "@require_component_getter(Engine, \"engine\", 'it\\'s \"odd\" \\\\ \\n\\x85\\ud83d')\nclass Car: pass\n"

def oddVisibility : String := "it's \"odd\" \\ \n\u0085" ++ String.ofList (Text.Surrogate.ofCode 0xD83D)

theorem visibilitiesArriveCar : ∃ u c, SourceUnit.read "m" oddText none = .ok u ∧ c ∈ scannedContainers [u] ∧
    ⟨oddVisibility, "Engine", "engine"⟩ ∈ c.planned ∧
    (∃ ahead behind, c.accessorBlock [] ⟨oddVisibility, "Engine", "engine"⟩ =
      ahead ++ "\n" ++ decorationText oddVisibility ++ "\n" ++ behind) ∧
    Text.Quoted.quote oddVisibility = "'it\\'s \"odd\" \\\\ \\n\\x85\\ud83d'" ∧
    ∃ e, readExpression (handing oddVisibility).toList = some e ∧ Hosting.visibilityOf [e] = some oddVisibility := by
  have told : (SourceUnit.read "m" oddText none).toOption.any (fun u => (scannedContainers [u]).any fun c =>
      ⟨oddVisibility, "Engine", "engine"⟩ ∈ c.planned) = true := by decide +kernel
  simp only [Option.any_eq_true, List.any_eq_true, decide_eq_true_eq] at told
  obtain ⟨u, read, c, scanned, planned⟩ := told
  obtain ⟨written, arrives⟩ := visibilitiesArrive
  exact ⟨u, c, okOf read, scanned, planned, ((arrives [u] c scanned).2 _ planned).2 [], by decide +kernel,
    (written oddVisibility).2.2.2.2.2⟩

end AccessorForge
