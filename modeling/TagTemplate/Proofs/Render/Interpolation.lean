import TagTemplate.Proofs.Render.Inert
import TagTemplate.Proofs.Render.SameElements

/-!
# Expressions in attributes

An attribute is made of literals with expressions in braces between them. It is taken apart at the
braces alone: the first closing brace ends an expression, wherever it stands in the expression.

- `segmented`, `meantPieces`: an attribute as it is written, and the pieces that are meant;
- `pieces_segmented_iff`: the attribute is taken apart as it is meant exactly if no expression holds
  a closing brace;
- `interpolate_segmented`: **then every expression is replaced by the text of its value**;
- `interpolate_cuts_string`: a closing brace in a string literal ends the expression there.
-/

namespace TagTemplate.Rendering

variable {env : Environment}

/-- An expression, and the literal behind its closing brace. -/
structure Segment where
  expression : String
  literal : String

/-- An attribute: a literal, and expressions in braces with a literal behind each. -/
def segmented (first : String) : List Segment → String
  | [] => first
  | seg :: segs =>
    first ++ "\x7b" ++ seg.expression ++ "\x7d" ++ segmented seg.literal segs

/-- The pieces that such an attribute is meant to have. -/
def meantPieces (first : String) : List Segment → List Piece
  | [] => [.literal first.toList]
  | seg :: segs =>
    .literal first.toList :: .expression seg.expression.toList :: meantPieces seg.literal segs

/-- The parts of the attribute with the text of its value for each expression. -/
def filledParts (value : Segment → Value) (first : String) : List Segment → List String
  | [] => [first]
  | seg :: segs => first :: (value seg).output :: filledParts value seg.literal segs

/-- The literals hold no opening brace. -/
def LiteralsPlain (first : String) (segs : List Segment) : Prop :=
  '\x7b' ∉ first.toList ∧ ∀ seg ∈ segs, '\x7b' ∉ seg.literal.toList

theorem toList_segmented_cons (first : String) (seg : Segment) (segs : List Segment) :
    (segmented first (seg :: segs)).toList =
      first.toList ++ '\x7b' :: (seg.expression.toList ++
        '\x7d' :: (segmented seg.literal segs).toList) := by
  rw [segmented]
  simp

/-! ## Taking apart -/

/-- The first segment is taken off the attribute, up to the first closing brace. -/
theorem piecesFrom_segment {first expression : List Char} (hfirst : '\x7b' ∉ first)
    (hexpression : '\x7d' ∉ expression) (fuel : Nat) (rest : List Char) :
    piecesFrom (fuel + 1) (first ++ '\x7b' :: (expression ++ '\x7d' :: rest)) =
      .literal first :: .expression expression :: piecesFrom fuel rest := by
  rw [piecesFrom, Text.span_ne_append hfirst]
  dsimp only
  rw [Text.span_ne_append hexpression]

/-- No piece that is taken for an expression holds a closing brace. -/
theorem notMem_of_expression {fuel : Nat} {cs expression : List Char}
    (h : Piece.expression expression ∈ piecesFrom fuel cs) : '\x7d' ∉ expression := by
  induction fuel generalizing cs with
  | zero => cases h
  | succ fuel ih =>
    rw [piecesFrom, List.span_eq_takeWhile_dropWhile] at h
    dsimp only at h
    split at h
    · cases List.mem_singleton.1 h
    · rename_i brace inner _
      rw [List.span_eq_takeWhile_dropWhile] at h
      dsimp only at h
      split at h
      · simp at h
      · rcases List.mem_cons.1 h with h | h
        · cases h
        · rcases List.mem_cons.1 h with h | h
          · cases h
            intro hmem
            have hbrace := List.mem_takeWhile_imp hmem
            simp at hbrace
          · exact ih h

/-- Behind the last closing brace there is a literal. -/
theorem piecesFrom_literal {text : List Char} (h : '\x7b' ∉ text) (fuel : Nat) :
    piecesFrom (fuel + 1) text = [.literal text] := by
  rw [piecesFrom, Text.span_ne_of_notMem h]

theorem piecesFrom_segmented {first : String} {segs : List Segment} (h : LiteralsPlain first segs)
    (hexpression : ∀ seg ∈ segs, '\x7d' ∉ seg.expression.toList) {fuel : Nat}
    (hfuel : segs.length < fuel) :
    piecesFrom fuel (segmented first segs).toList = meantPieces first segs := by
  obtain ⟨fuel, rfl⟩ := Nat.exists_eq_add_one_of_ne_zero (Nat.ne_zero_of_lt hfuel)
  induction segs generalizing first fuel with
  | nil => exact piecesFrom_literal h.1 fuel
  | cons seg segs ih =>
    obtain ⟨hfirst, hliterals⟩ := h
    obtain ⟨hliteral, hothers⟩ := List.forall_mem_cons.1 hliterals
    obtain ⟨hhere, hlater⟩ := List.forall_mem_cons.1 hexpression
    have hfewer : segs.length < fuel := by
      rw [List.length_cons] at hfuel
      omega
    obtain ⟨fuel, rfl⟩ := Nat.exists_eq_add_one_of_ne_zero (Nat.ne_zero_of_lt hfewer)
    rw [toList_segmented_cons, piecesFrom_segment hfirst hhere, meantPieces,
      ih ⟨hliteral, hothers⟩ hlater fuel hfewer]

/-- An attribute is longer than it has segments. -/
theorem length_le_segmented (first : String) (segs : List Segment) :
    segs.length ≤ (segmented first segs).toList.length := by
  induction segs generalizing first with
  | nil => exact Nat.zero_le _
  | cons seg segs ih =>
    have hothers := ih seg.literal
    rw [toList_segmented_cons]
    simp only [List.length_append, List.length_cons]
    omega

theorem expression_mem_meantPieces (first : String) {seg : Segment} {segs : List Segment}
    (h : seg ∈ segs) : .expression seg.expression.toList ∈ meantPieces first segs := by
  induction segs generalizing first with
  | nil => cases h
  | cons other segs ih =>
    rw [meantPieces]
    rcases List.mem_cons.1 h with rfl | h
    · simp
    · simp [ih other.literal h]

/-- **An attribute is taken apart as it is meant exactly if no expression holds a closing
brace.** -/
theorem pieces_segmented_iff {first : String} {segs : List Segment}
    (h : LiteralsPlain first segs) :
    pieces (segmented first segs) = meantPieces first segs ↔
      ∀ seg ∈ segs, '\x7d' ∉ seg.expression.toList := by
  constructor
  · intro hpieces seg hmem
    have hpiece := expression_mem_meantPieces first hmem
    rw [← hpieces] at hpiece
    exact notMem_of_expression hpiece
  · intro hexpression
    exact piecesFrom_segmented h hexpression (Nat.lt_succ_of_le (length_le_segmented first segs))

/-! ## Putting together -/

theorem outcome_evaluateText {expression : String} {s : RenderState} {v : Value}
    (h : Expr.evaluate ⟨s.scope, env.functions, s.iterations.head?⟩ expression = .ok v) :
    (evaluateText env expression).outcome s = (.ok v.output, s) := by
  have hevaluate : (evaluate env expression).outcome s = (.ok v, s) := by
    show (Expr.evaluate ⟨s.scope, env.functions, s.iterations.head?⟩ expression, s) = _
    rw [h]
  rw [evaluateText, outcome_map, hevaluate]
  rfl

theorem outcome_pieces {value : Segment → Value} {s : RenderState} {segs : List Segment}
    (h : ∀ seg ∈ segs, Expr.evaluate ⟨s.scope, env.functions, s.iterations.head?⟩ seg.expression =
      .ok (value seg)) (raw first : String) :
    ((meantPieces first segs).mapM (renderPiece env raw)).outcome s =
      (.ok (filledParts value first segs), s) := by
  induction segs generalizing first with
  | nil => simp [meantPieces, filledParts, renderPiece]
  | cons seg segs ih =>
    obtain ⟨hhere, hlater⟩ := List.forall_mem_cons.1 h
    have htext := outcome_evaluateText hhere
    rw [meantPieces, filledParts, List.mapM_cons, List.mapM_cons]
    simp [renderPiece, outcome_bind, outcome_map, htext, ih hlater, Except.map]

/-- **Every expression is replaced by the text of its value**, in an attribute that is taken apart
as it is meant: that is one whose expressions hold no closing brace, in string literals or
elsewhere. -/
theorem interpolate_segmented (env : Environment) {first : String} {segs : List Segment}
    (h : LiteralsPlain first segs) :
    (pieces (segmented first segs) = meantPieces first segs ↔
      ∀ seg ∈ segs, '\x7d' ∉ seg.expression.toList) ∧
    ((∀ seg ∈ segs, '\x7d' ∉ seg.expression.toList) →
      ∀ (s : RenderState) (value : Segment → Value),
        (∀ seg ∈ segs, Expr.evaluate ⟨s.scope, env.functions, s.iterations.head?⟩ seg.expression =
          .ok (value seg)) →
        (interpolate env (segmented first segs)).outcome s =
          (.ok (String.join (filledParts value first segs)), s)) := by
  refine ⟨pieces_segmented_iff h, fun hexpression s value hvalue => ?_⟩
  rw [interpolate, outcome_map, (pieces_segmented_iff h).2 hexpression,
    outcome_pieces hvalue]
  rfl

/-- The state before an empty document. -/
def emptyStart : RenderState := .start .empty (.empty "/" 0)

/-- Opening braces in string literals do no harm. -/
theorem interpolate_segmented_address :
    LiteralsPlain "/u/" [⟨"'\x7ba'", "?"⟩, ⟨"'b'", ""⟩] ∧
      (interpolate bareEnvironment
        (segmented "/u/" [⟨"'\x7ba'", "?"⟩, ⟨"'b'", ""⟩])).outcome emptyStart =
        (.ok "/u/\x7ba?b", emptyStart) := by
  have hplain : LiteralsPlain "/u/" [⟨"'\x7ba'", "?"⟩, ⟨"'b'", ""⟩] := by
    refine ⟨by simp, fun seg hseg => ?_⟩
    simp only [List.mem_cons, List.not_mem_nil, or_false] at hseg
    rcases hseg with rfl | rfl <;> simp
  refine ⟨hplain, ?_⟩
  have hresult := (interpolate_segmented bareEnvironment hplain).2 (fun seg hseg => ?_) emptyStart
    (fun seg => if seg.literal = "?" then .string "\x7ba" else .string "b") fun seg hseg => ?_
  · exact hresult
  all_goals
    simp only [List.mem_cons, List.not_mem_nil, or_false] at hseg
    rcases hseg with rfl | rfl
  · simp
  · simp
  · rfl
  · rfl

/-- **A closing brace in a string literal ends the expression**: the whole expression has a value,
but what stands in front of the brace has none. -/
theorem interpolate_cuts_string :
    LiteralsPlain "" [⟨"'\x7dx'", ""⟩] ∧
      Expr.evaluate ⟨emptyStart.scope, bareEnvironment.functions, emptyStart.iterations.head?⟩
        "'\x7dx'" = .ok (.string "\x7dx") ∧
      ((interpolate bareEnvironment (segmented "" [⟨"'\x7dx'", ""⟩])).outcome
        emptyStart).1 = .error (.unexpectedEnd "'" .string) := by
  refine ⟨⟨by simp, fun seg hseg => ?_⟩, rfl, rfl⟩
  rw [List.mem_singleton.1 hseg]
  simp

end TagTemplate.Rendering
