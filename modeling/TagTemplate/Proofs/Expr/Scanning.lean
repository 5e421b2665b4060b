import TagTemplate.Proofs.Except
import TagTemplate.Proofs.Expr.Grammar

/-!
# The scanner, character by character

- `Scans`: a text takes the scanner from one state to another one, whatever follows;
- `EndsAt`: what follows ends the token that the scanner is in (`run_ended`);
- `specials`: the characters that begin a token or are one, and the classes of all others.
-/

namespace TagTemplate.Expr

open TagTemplate.Text

variable {env : Env}

namespace Scanner

/-- The scanner between tokens. -/
def between (held : Stacks) : Scanner := ⟨.idle, [], none, held⟩

/-- Reads a text and asks for the value at its end. -/
def run (env : Env) (s : Scanner) (position : Nat) (text : List Char) : Except Failure Value :=
  (s.feedAll env position text).bind (Scanner.finish env)

theorem feed_idle {s : Scanner} (h : s.mode = .idle) (c : Char) (position : Nat) :
    s.feed env c position = s.readIdle env c position := by
  have hread : s.read env c position = (s.readIdle env c position).map fun s => (true, s) := by
    unfold read
    rw [h]
  rw [feed, hread]
  cases s.readIdle env c position <;> rfl

/-- A character that is used up. -/
theorem run_used {s : Scanner} {c : Char} {position : Nat} {result : Except Failure Scanner}
    (h : s.read env c position = result.map fun s => (true, s)) (cs : List Char) :
    s.run env position (c :: cs) = result.bind fun s => s.run env (position + 1) cs := by
  rw [run, feedAll, feed, h]
  cases result <;> rfl

/-- A character that is read a second time. -/
theorem run_again {s : Scanner} {c : Char} {position : Nat} {result : Except Failure Scanner}
    (h : s.read env c position = result.map fun s => (false, s))
    (hidle : ∀ s', result = .ok s' → s'.mode = .idle) (cs : List Char) :
    s.run env position (c :: cs) = result.bind fun s => s.run env position (c :: cs) := by
  cases result with
  | error e =>
    rw [run, feedAll, feed, h]
    rfl
  | ok s' =>
    -- between tokens every character is used up, so it is read no third time
    have hfeed : s.feed env c position = s'.feed env c position := by
      rw [feed_idle (hidle s' rfl), feed, h]
      show (·.2) <$> s'.read env c position = _
      unfold read
      rw [hidle s' rfl]
      cases s'.readIdle env c position <;> rfl
    show s.run env position (c :: cs) = s'.run env position (c :: cs)
    rw [run, run, feedAll, feedAll, hfeed]

/-! ## Runs of characters -/

/-- The text takes the scanner from one state to the other, whatever follows. -/
def Scans (env : Env) (s : Scanner) (text : List Char) (s' : Scanner) : Prop :=
  ∀ position rest, s.run env position (text ++ rest) = s'.run env (position + text.length) rest

theorem Scans.refl (s : Scanner) : Scans env s [] s := fun _ _ => rfl

theorem Scans.trans {s s' s'' : Scanner} {text more : List Char} (h : Scans env s text s')
    (h' : Scans env s' more s'') : Scans env s (text ++ more) s'' := by
  intro position rest
  rw [List.append_assoc, h, h', List.length_append, Nat.add_assoc]

theorem Scans.char {s s' : Scanner} {c : Char}
    (h : ∀ position, s.read env c position = .ok (true, s')) : Scans env s [c] s' := by
  intro position rest
  have hread : s.read env c position = (Except.ok s').map fun s => (true, s) := h position
  exact run_used hread rest

theorem Scans.cons {s s' s'' : Scanner} {c : Char} {text : List Char}
    (h : ∀ position, s.read env c position = .ok (true, s')) (h' : Scans env s' text s'') :
    Scans env s (c :: text) s'' :=
  (Scans.char h).trans h'

/-- A run of characters that each leave the state in the same family. -/
theorem Scans.each (state : List Char → Scanner) {text : List Char}
    (h : ∀ buffer, ∀ c ∈ text, ∀ position,
      (state buffer).read env c position = .ok (true, state (buffer ++ [c]))) (buffer : List Char) :
    Scans env (state buffer) text (state (buffer ++ text)) := by
  induction text generalizing buffer with
  | nil =>
    rw [List.append_nil]
    exact Scans.refl _
  | cons c cs ih =>
    have hcs := ih (fun buffer d hd => h buffer d (by simp [hd])) (buffer ++ [c])
    rw [List.append_assoc] at hcs
    exact Scans.cons (h buffer c (by simp)) hcs

/-! ## Ends of tokens -/

/-- What follows ends the token that the scanner is in. -/
def EndsAt : Mode → List Char → Prop
  | .idle, _ => True
  | _, [] => True
  | .quoted _ _, _ :: _ => False
  | .name, c :: _ => isNameChar c = false ∧ c ≠ '(' ∧ c ≠ '/'
  | .numeral _, c :: _ => c.isDigit = false ∧ c ≠ '.' ∧ isNameStart c = false
  | .dot, c :: _ => c ≠ '.' ∧ c ≠ '/' ∧ c.isDigit = false
  | .dots, c :: _ => c ≠ '/'
  | .slash, c :: _ => isNameChar c = false

theorem mode_of_finishPath {s s' : Scanner} (h : s.finishPath env = .ok s') : s'.mode = .idle := by
  unfold finishPath at h
  split at h
  · cases h
    rfl
  · obtain ⟨held, -, rfl⟩ := map_eq_ok h
    rfl

theorem mode_of_finishName {s s' : Scanner} (h : s.finishName env = .ok s') : s'.mode = .idle := by
  unfold finishName at h
  dsimp only at h
  cases hk : (if s.path.isNone then keyword? (String.ofList s.buffer) else none) with
  | some v =>
    rw [hk] at h
    obtain ⟨held, -, rfl⟩ := map_eq_ok h
    rfl
  | none =>
    rw [hk] at h
    obtain ⟨ended, -, hfinish⟩ := bind_eq_ok h
    exact mode_of_finishPath hfinish

theorem mode_of_finishNumeral {s s' : Scanner} (h : s.finishNumeral = .ok s') :
    s'.mode = .idle := by
  unfold finishNumeral at h
  split at h
  · obtain ⟨held, -, rfl⟩ := map_eq_ok h
    rfl
  · cases h

theorem mode_of_finishRoot {s s' : Scanner} {root : Root} (h : s.finishRoot env root = .ok s') :
    s'.mode = .idle := by
  obtain ⟨begun, -, hfinish⟩ := bind_eq_ok h
  exact mode_of_finishPath hfinish

/-- Ending a token leads between tokens. -/
theorem mode_of_finishToken {s s' : Scanner} (h : s.finishToken env = .ok s') :
    s'.mode = .idle := by
  unfold finishToken at h
  split at h
  · cases h
    assumption
  · cases h
  · exact mode_of_finishName h
  · exact mode_of_finishNumeral h
  · exact mode_of_finishRoot h
  · exact mode_of_finishRoot h
  · exact mode_of_finishPath h

theorem finishToken_idle {s : Scanner} (h : s.mode = .idle) : s.finishToken env = .ok s := by
  unfold finishToken
  rw [h]

theorem read_ended {s : Scanner} {c : Char} {cs : List Char} (h : EndsAt s.mode (c :: cs))
    (hidle : s.mode ≠ .idle) (position : Nat) :
    s.read env c position = (s.finishToken env).map fun s => (false, s) := by
  obtain ⟨mode, buffer, path, held⟩ := s
  unfold read finishToken
  cases mode with
  | idle => exact absurd rfl hidle
  | quoted => exact h.elim
  | name =>
    obtain ⟨hname, hopen, hslash⟩ := h
    simp [hname, hopen, hslash]
  | numeral =>
    obtain ⟨hdigit, hdot, hname⟩ := h
    simp [hdigit, hdot, hname]
  | dot =>
    obtain ⟨hdot, hslash, hdigit⟩ := h
    simp [hdot, hslash, hdigit]
  | dots => simp [show c ≠ '/' from h]
  | slash => simp [show isNameChar c = false from h]

/-- A token that is ended by what follows is ended first. -/
theorem run_ended {s : Scanner} {rest : List Char} (h : EndsAt s.mode rest) (position : Nat) :
    s.run env position rest =
      (s.finishToken env).bind fun s => s.run env position rest := by
  by_cases hidle : s.mode = .idle
  · rw [finishToken_idle hidle]
    rfl
  · cases rest with
    | nil =>
      show s.finish env = (s.finishToken env).bind (finish env)
      rw [finish]
      -- at the end of the text nothing is left to end
      cases hs : s.finishToken env with
      | error e => rfl
      | ok s' =>
        show s'.held.finish = s'.finish env
        rw [finish, finishToken_idle (mode_of_finishToken hs)]
        rfl
    | cons c cs => exact run_again (read_ended h hidle position) (fun s' => mode_of_finishToken) cs

/-! ## Characters between tokens -/

/-- The characters that begin a token or are one, names and numerals apart. -/
def specials : List Char := ['\'', '"', '+', '-', '*', '/', '(', ')', ',', '.']

theorem readIdle_of_notMem {c : Char} (h : c ∉ specials) (s : Scanner) (position : Nat) :
    s.readIdle env c position =
      if c.isDigit then .ok ((s.keep c).goto (.numeral false))
      else if isNameStart c then .ok ((s.keep c).goto .name)
      else if isBlank c then .ok s
      else .error (.lexical c position) := by
  simp only [specials, List.mem_cons, List.not_mem_nil, or_false, not_or] at h
  obtain ⟨h₁, h₂, h₃, h₄, h₅, h₆, h₇, h₈, h₉, h₁₀⟩ := h
  rw [readIdle, if_neg (by simp [h₁, h₂]), if_neg h₃, if_neg h₄, if_neg h₅, if_neg h₆, if_neg h₇,
    if_neg h₈, if_neg h₉, if_neg h₁₀]

theorem read_idle (env : Env) {s : Scanner} (h : s.mode = .idle) (c : Char) (position : Nat) :
    s.read env c position = (s.readIdle env c position).map fun s => (true, s) := by
  unfold read
  rw [h]

theorem notMem_specials_of_class {p : Char → Bool} (hp : specials.any p = false) {c : Char}
    (h : p c = true) : c ∉ specials :=
  fun hc => by simp [List.any_eq_false.1 hp c hc] at h

theorem ne_of_isBlank {c d : Char} (h : isBlank c = true) (hd : isBlank d = false) : c ≠ d := by
  rintro rfl
  rw [h] at hd
  cases hd

theorem isNameChar_of_isBlank {c : Char} (h : isBlank c = true) : isNameChar c = false := by
  simp [isNameChar, isAlphanumeric_of_isBlank h, ne_of_isBlank h (d := '_') rfl]

theorem isNameChar_of_isNameStart {c : Char} (h : isNameStart c = true) : isNameChar c = true := by
  simp only [isNameStart, Bool.or_eq_true, decide_eq_true_eq] at h
  rcases h with h | rfl
  · simp [isNameChar, isAlphanumeric_of_isAlphabetic h]
  · decide

theorem isNameChar_of_isDigit {c : Char} (h : c.isDigit = true) : isNameChar c = true := by
  simp [isNameChar, isAlphanumeric_of_isDigit h]

theorem isDigit_of_isNameStart {c : Char} (h : isNameStart c = true) : c.isDigit = false := by
  refine Bool.eq_false_iff.2 fun hdigit => ?_
  have hunderscore : c ≠ '_' := by
    rintro rfl
    exact absurd hdigit (by decide)
  simp [isNameStart, isAlphabetic_of_isDigit hdigit, hunderscore] at h

/-- White space between tokens is skipped. -/
theorem scans_blanks (env : Env) {blanks : List Char} (h : ∀ c ∈ blanks, isBlank c = true)
    (held : Stacks) :
    Scans env (between held) blanks (between held) := by
  induction blanks with
  | nil => exact Scans.refl _
  | cons c cs ih =>
    have hc := h c (by simp)
    have hname := isNameChar_of_isBlank hc
    have hstart : isNameStart c = false :=
      Bool.eq_false_iff.2 fun hs => by simp [isNameChar_of_isNameStart hs] at hname
    have hdigit : c.isDigit = false :=
      Bool.eq_false_iff.2 fun hd => by simp [isNameChar_of_isDigit hd] at hname
    refine Scans.cons (fun position => ?_) (ih fun d hd => h d (by simp [hd]))
    rw [read_idle env rfl, readIdle_of_notMem (notMem_specials_of_class (by decide) hc)]
    simp [hdigit, hstart, hc, Except.map]

end Scanner

end TagTemplate.Expr
