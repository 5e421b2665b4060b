import TagTemplate.Template.Read

/-!
# The lines of a source

A cursor that counts lines remembers how far it has counted, but what it answers depends on the
source alone.

- `lineOf`: the line of a byte offset;
- `LineCursor.Counts`: a cursor that has counted right so far; `counts_lineAt` is one step of it;
- `readSource_eq_foldlM`: **a source is read event by event, each on its own line**.
-/

namespace TagTemplate

open Text

namespace Text

theorem newlinesIn_append (first last position : Nat) (cs ds : List Char) :
    newlinesIn first last position (cs ++ ds) =
      newlinesIn first last position cs + newlinesIn first last (position + byteLength cs) ds := by
  induction cs generalizing position with
  | nil => simp [newlinesIn]
  | cons c cs ih =>
    rw [List.cons_append, newlinesIn, newlinesIn, ih, byteLength_cons]
    simp only [Nat.add_assoc]

theorem newlinesIn_of_le {first last position : Nat} (h : last ≤ position) (cs : List Char) :
    newlinesIn first last position cs = 0 := by
  induction cs generalizing position with
  | nil => rfl
  | cons c cs ih =>
    rw [newlinesIn, ih (Nat.le_trans h (Nat.le_add_right ..)), if_neg (by omega)]

/-- Line feeds that stand before both ends are counted up to both. -/
theorem newlinesIn_congr {first last last' position : Nat} {cs : List Char}
    (h : position + byteLength cs ≤ last) (h' : position + byteLength cs ≤ last') :
    newlinesIn first last position cs = newlinesIn first last' position cs := by
  induction cs generalizing position with
  | nil => rfl
  | cons c cs ih =>
    rw [byteLength_cons] at h h'
    have hpos := c.utf8Size_pos
    have hlast : position < last := by omega
    have hlast' : position < last' := by omega
    rw [newlinesIn, newlinesIn, ih (by omega) (by omega)]
    simp only [hlast, hlast']

end Text

/-- The line of a byte offset, counted from one. -/
def lineOf (source : List Char) (offset : Nat) : Nat := 1 + newlinesIn 0 offset 0 source

namespace LineCursor

/-- The cursor stands behind a part of its source, on the line that it says. -/
structure Counts (cursor : LineCursor) (source : List Char) : Prop where
  source_eq : cursor.source = source
  split : ∃ done, source = done ++ cursor.rest ∧ cursor.offset = byteLength done
  line_eq : cursor.line = lineOf source cursor.offset

theorem counts_start (source : List Char) : (start source).Counts source :=
  ⟨rfl, ⟨[], rfl, rfl⟩, congrArg (1 + ·) (newlinesIn_of_le (Nat.le_refl 0) source).symm⟩

/-- What is skipped begins before the target. -/
theorem skip_eq (target : Nat) (cs : List Char) (offset line : Nat) :
    ∃ skipped, cs = skipped ++ (skip target cs offset line).1 ∧
      (skip target cs offset line).2.1 = offset + byteLength skipped ∧
      (skip target cs offset line).2.2 = line + newlinesIn 0 target offset cs ∧
      (skip target cs offset line).2.2 =
        line + newlinesIn 0 (skip target cs offset line).2.1 offset cs := by
  induction cs generalizing offset line with
  | nil => exact ⟨[], rfl, rfl, rfl, rfl⟩
  | cons c cs ih =>
    rw [skip]
    -- a character is skipped as long as it begins in front of the target
    by_cases h : offset < target
    · have hnext : (if c = '\n' then line + 1 else line) = line + if c = '\n' then 1 else 0 := by
        split <;> rfl
      have hcount : ∀ last, offset < last → newlinesIn 0 last offset (c :: cs) =
          (if c = '\n' then 1 else 0) + newlinesIn 0 last (offset + c.utf8Size) cs := by
        intro last hlast
        simp [newlinesIn, hlast]
      rw [if_pos h, hnext]
      obtain ⟨skipped, hcs, hoffset, hline, hline'⟩ :=
        ih (offset + c.utf8Size) (line + if c = '\n' then 1 else 0)
      have hpos := c.utf8Size_pos
      refine ⟨c :: skipped, congrArg (c :: ·) hcs, ?_, ?_, ?_⟩
      · rw [hoffset, byteLength_cons, Nat.add_assoc]
      · rw [hline, hcount target h, Nat.add_assoc]
      · rw [hline', hcount _ (by omega), Nat.add_assoc]
    · rw [if_neg h]
      refine ⟨[], rfl, rfl, ?_, ?_⟩
      · rw [newlinesIn_of_le (Nat.not_lt.1 h)]
        rfl
      · rw [newlinesIn_of_le (Nat.le_refl _)]
        rfl

/-- **A cursor that has counted right counts right**, forward and backward. -/
theorem counts_lineAt {cursor : LineCursor} {source : List Char} (h : cursor.Counts source)
    (target : Nat) :
    (cursor.lineAt target).1 = lineOf source target ∧ (cursor.lineAt target).2.Counts source := by
  obtain ⟨rfl, ⟨done, hsplit, hoffset⟩, hline⟩ := h
  unfold lineAt
  by_cases hback : target < cursor.offset
  · rw [if_pos hback]
    exact ⟨rfl, rfl, ⟨done, hsplit, hoffset⟩, hline⟩
  · rw [if_neg hback]
    obtain ⟨skipped, hrest, hoffset', hline', hline''⟩ :=
      skip_eq target cursor.rest cursor.offset cursor.line
    generalize skip target cursor.rest cursor.offset cursor.line = moved
      at hrest hoffset' hline' hline''
    obtain ⟨rest, offset, line⟩ := moved
    dsimp only at hrest hoffset' hline' hline'' ⊢
    -- up to the cursor all ends count the same
    have hcount : ∀ last, cursor.offset ≤ last →
        cursor.line + newlinesIn 0 last cursor.offset cursor.rest = lineOf cursor.source last := by
      intro last hlast
      have hdone : newlinesIn 0 cursor.offset 0 done = newlinesIn 0 last 0 done :=
        newlinesIn_congr (by omega) (by omega)
      rw [hline, lineOf, lineOf, hsplit, newlinesIn_append, newlinesIn_append, Nat.zero_add,
        ← hoffset, newlinesIn_of_le (Nat.le_refl _), hdone]
      omega
    refine ⟨?_, rfl, ⟨done ++ skipped, ?_, ?_⟩, ?_⟩
    · rw [hline', hcount target (Nat.not_lt.1 hback)]
    · rw [List.append_assoc, ← hrest]
      exact hsplit
    · rw [byteLength_append, ← hoffset]
      exact hoffset'
    · show line = lineOf cursor.source offset
      rw [hline'', hcount offset (by omega)]

end LineCursor

/-- Events are taken in, each on its own line of the source. -/
theorem Builder.addAll_eq_foldlM {lines : LineCursor} {source : List Char} (h : lines.Counts source)
    (b : Builder) (es : List Markup.Located) :
    ∃ lines' : LineCursor, lines'.Counts source ∧ b.addAll lines es =
      (es.foldlM (fun (b : Builder) e => b.add e (lineOf source e.first)) b).map
        fun b => (b, lines') := by
  induction es generalizing b lines with
  | nil => exact ⟨lines, h, rfl⟩
  | cons e es ih =>
    obtain ⟨hline, hcounts⟩ := LineCursor.counts_lineAt h e.first
    rw [addAll, List.foldlM_cons]
    dsimp only
    rw [hline]
    show ∃ lines' : LineCursor, _ ∧ Except.bind _ _ = Except.map _ (Except.bind _ _)
    cases b.add e (lineOf source e.first) with
    | error e => exact ⟨lines, h, rfl⟩
    | ok b => exact ih hcounts b

/-- **A source is read event by event, each on its own line.** -/
theorem readSource_eq_foldlM (source : List Char) (sourcePath : String) (fold : Bool) :
    Template.readSource source sourcePath fold =
      ((Markup.events source).1.foldlM
        (fun (b : Builder) e => b.add e (lineOf source e.first)) (.start source fold)).bind fun b =>
          match (Markup.events source).2 with
          | some failure => .error (b.error failure.fault.message (lineOf source failure.position))
          | none => b.finish sourcePath (lineOf source (byteLength source)) := by
  unfold Template.readSource
  generalize Markup.events source = read
  obtain ⟨es, failure⟩ := read
  obtain ⟨lines, hcounts, hall⟩ :=
    Builder.addAll_eq_foldlM (LineCursor.counts_start source) (.start source fold) es
  show Except.bind _ _ = _
  dsimp only
  rw [hall]
  generalize es.foldlM (fun (b : Builder) e => b.add e (lineOf source e.first)) _ = built
  cases built with
  | error e => rfl
  | ok b =>
    show (match failure with | some _ => _ | none => _) = _
    cases failure with
    | some failure =>
      dsimp only
      rw [(LineCursor.counts_lineAt hcounts _).1]
      rfl
    | none =>
      dsimp only
      rw [(LineCursor.counts_lineAt hcounts _).1]
      rfl

end TagTemplate
