import WorkloadPolicy.Proofs.Enclosure
import WorkloadPolicy.Proofs.Literal

/-!
# Patterns between anchors

A pattern for whole values is put as text into a group between anchors.  What is
read then is the pattern by itself between anchors, which matches the values
that the pattern can span, unless the pattern closes the group around it.  A
pattern that does so is not well formed by itself, and its parts outside the
group may match without an anchor on one side.
-/

namespace WorkloadPolicy
namespace Regex

/-! ## Spans -/

namespace Expr

/-- Whether an expression can match all of a text. -/
def spans (expr : Expr) (text : List Char) : Bool :=
  (expr.ends text 1).testBit text.length

end Expr

/-- An expression between anchors. -/
def anchoredExpr (expr : Expr) : Expr :=
  .concat (.look .textStart) (.concat expr (.look .textEnd))

/-- Between anchors an expression matches the texts that it can span. -/
theorem matchesIn_anchoredExpr (expr : Expr) (text : List Char) :
    (anchoredExpr expr).matchesIn text = expr.spans text := by
  rw [Bool.eq_iff_iff, Expr.matchesIn, anchoredExpr, Expr.ends_concat, Expr.ends_concat,
    Expr.ends_textStart, bne_iff_ne, Expr.ends_textEnd_ne_zero_iff, Expr.spans]
  rfl

/-- What fits between anchors fits by itself. -/
theorem Size.fits_of_anchoredExpr
    {expr : Expr}
    (small : fits (anchoredExpr expr) = true) :
    fits expr = true := by
  simp only [fits, anchoredExpr, Size.expr, Bool.and_eq_true, decide_eq_true_eq] at small ⊢
  omega

/-! ## Reading between anchors -/

/-- Whether a pattern closes a group that it has not opened. -/
def overcloses (characters : List Char) : Bool :=
  match branches? literalFlags [] [] [] (characters.length + 1) characters with
  | some (_, _, ')' :: _) => true
  | _ => false

/-- A pattern that closes too many groups is not well formed. -/
theorem read?_of_overcloses
    {characters : List Char}
    (closes : overcloses characters = true) :
    read? literalFlags characters = none := by
  unfold overcloses at closes
  split at closes
  · rename_i read
    rw [read?, read]
  · simp at closes

variable
  {names : List (List Char)}
  {branches pieces : List Piece}
  {rest : List Char}

/-- A group that does not capture is read by itself. -/
theorem branches?_group_eq (fuel : Nat) :
    branches? literalFlags names branches pieces (fuel + 1) ('(' :: '?' :: ':' :: rest) =
      match branches? literalFlags names [] [] fuel rest with
      | some (piece, names, ')' :: rest) =>
          branches? literalFlags names branches (⟨piece.expr, piece.depth + 1, true⟩ :: pieces)
            fuel rest
      | _ => none := rfl

/-- The anchor of the end is the last piece of the last branch. -/
theorem branches?_anchor (fuel : Nat) :
    branches? literalFlags names branches pieces (fuel + 2) ['$'] =
      some (.choice (.row (⟨.look .textEnd, 0, true⟩ :: pieces) :: branches), names, []) := by
  rw [branches?_of_primitive? (by decide) rfl, branches?_end]
  rfl

/-- A parenthesis left in a closed text leaves all of the closing text. -/
theorem exists_append_closing_of_parenthesis
    {characters : List Char}
    (left : ')' :: rest <:+ characters ++ closing) :
    ∃ inner, ')' :: rest = inner ++ closing := by
  rcases List.suffix_or_suffix_of_suffix left (List.suffix_append characters closing) with
    within | beyond
  · refine ⟨[], ?_⟩
    simp only [closing, List.suffix_cons_iff, List.suffix_nil] at within
    simpa [closing] using within
  · obtain ⟨inner, same⟩ := beyond
    exact ⟨inner, same.symm⟩

/-- What is read between anchors is what is read by itself, unless the pattern
closes the group around it. -/
theorem exists_of_read?_anchored
    {characters : List Char}
    {whole : Expr}
    (balanced : overcloses characters = false)
    (read : read? literalFlags ('^' :: '(' :: '?' :: ':' :: (characters ++ closing)) =
      some whole) :
    ∃ expr, read? literalFlags characters = some expr ∧ whole = anchoredExpr expr := by
  have fuel :
      ('^' :: '(' :: '?' :: ':' :: (characters ++ closing)).length + 1 =
        (characters.length + 5) + 1 + 1 := by
    simp [closing]
  rw [read?, fuel, branches?_of_primitive? (by decide) rfl, branches?_group_eq] at read
  rcases inner :
      branches? literalFlags [] [] [] (characters.length + 5) (characters ++ closing) with
    _ | ⟨piece, names, after⟩
  · simp [inner] at read
  rw [inner] at read
  cases after with
  | nil => simp at read
  | cons first after =>
      by_cases parenthesis : first = ')'
      · subst parenthesis
        obtain ⟨rest, same⟩ := exists_append_closing_of_parenthesis (branches?_suffix inner)
        rw [same] at inner
        have alone := branches?_inside (Nat.lt_succ_self _) inner
        cases rest with
        | nil =>
            obtain rfl : after = ['$'] := (List.cons.inj same).2
            simp only [branches?_anchor] at read
            split at read
            · rename_i shallow
              cases read
              have depth : piece.depth ≤ greatestDepth := by
                simp only [Piece.choice, Piece.row_cons_cons, Piece.greatestDepth,
                  List.foldl_cons, List.foldl_nil] at shallow
                omega
              refine ⟨piece.expr, ?_, rfl⟩
              rw [read?, alone]
              exact if_pos depth
            · simp at read
        | cons first rest =>
            rw [List.cons_append, List.cons.injEq] at same
            obtain ⟨rfl, -⟩ := same
            simp [overcloses, alone] at balanced
      · simp [parenthesis] at read

end Regex

/-! ## Compiled patterns -/

namespace Pattern

open Regex

/-- Whether the text of a pattern closes a group that it has not opened. -/
def overcloses (text : String) : Bool :=
  Regex.overcloses text.toList

theorem compile?_of_overcloses
    {text : String}
    (closes : overcloses text = true) :
    compile? true text = none := by
  have unread : Regex.read? ⟨true, false, false, false, false, true⟩ text.toList = none :=
    read?_of_overcloses closes
  rw [compile?, unread]

/-- A pattern between anchors is compiled as the pattern by itself between anchors. -/
theorem exists_of_compile?_anchored
    {text : String}
    {pattern : Pattern}
    (balanced : overcloses text = false)
    (compiled : compile? true (anchored text) = some pattern) :
    ∃ alone, compile? true text = some alone ∧ pattern.expr = anchoredExpr alone.expr := by
  have source :
      (anchored text).toList = '^' :: '(' :: '?' :: ':' :: (text.toList ++ closing) := by
    simp [anchored, closing]
  unfold compile? at compiled
  split at compiled
  · rename_i whole read
    split at compiled
    · rename_i small
      cases compiled
      rw [source] at read
      obtain ⟨expr, alone, rfl⟩ := exists_of_read?_anchored balanced read
      have aloneRead :
          Regex.read? ⟨true, false, false, false, false, true⟩ text.toList = some expr := alone
      refine ⟨⟨text, expr⟩, ?_, rfl⟩
      simp only [compile?, aloneRead, Size.fits_of_anchoredExpr small, if_true]
    · simp at compiled
  · simp at compiled

end Pattern

/-- A pattern for whole values that does not close the group around it is
rejected unless it is well formed by itself, and then matches the values that it
can span. -/
theorem compileWhole_spans
    (check text : String)
    (balanced : Pattern.overcloses text = false) :
    (Pattern.compile? true text = none →
        compileWhole check text = .error (.invalidPattern check text)) ∧
      ∀ pattern, compileWhole check text = .ok pattern →
        ∃ alone, Pattern.compile? true text = some alone ∧
          ∀ value : String,
            pattern.isMatch value = true ↔ alone.expr.spans value.toList = true := by
  have accepted (pattern : Pattern) (run : compileWhole check text = .ok pattern) :
      ∃ alone, Pattern.compile? true text = some alone ∧
        pattern.expr = Regex.anchoredExpr alone.expr := by
    unfold compileWhole at run
    split at run
    · rename_i compiled
      cases run
      exact Pattern.exists_of_compile?_anchored balanced compiled
    · simp at run
  refine ⟨fun malformed => ?_, fun pattern run => ?_⟩
  · cases run : compileWhole check text with
    | ok pattern =>
        obtain ⟨alone, formed, -⟩ := accepted pattern run
        rw [malformed] at formed
        simp at formed
    | error error =>
        unfold compileWhole at run
        split at run
        · simp at run
        · exact run.symm
  · obtain ⟨alone, formed, same⟩ := accepted pattern run
    refine ⟨alone, formed, fun value => ?_⟩
    rw [Pattern.isMatch, same, Regex.matchesIn_anchoredExpr]

/-- A choice spans its branches and nothing longer. -/
theorem compileWhole_spans_choice :
    ∃ pattern alone, compileWhole "cve" "1|2" = .ok pattern ∧
      Pattern.compile? true "1|2" = some alone ∧
      (∀ value : String, pattern.isMatch value = true ↔ alone.expr.spans value.toList = true) ∧
      pattern.isMatch "2" = true ∧ pattern.isMatch "12" = false := by
  have tested :
      (compileWhole "cve" "1|2").toOption.any
        (fun pattern => pattern.isMatch "2" && !pattern.isMatch "12") = true := by
    decide +kernel
  cases run : compileWhole "cve" "1|2" with
  | error error => simp [run, Except.toOption] at tested
  | ok pattern =>
      obtain ⟨alone, formed, same⟩ :=
        (compileWhole_spans "cve" "1|2" (by decide +kernel)).2 pattern run
      rw [run] at tested
      have both : pattern.isMatch "2" = true ∧ pattern.isMatch "12" = false := by
        simpa [Except.toOption] using tested
      exact ⟨pattern, alone, rfl, formed, same, both⟩

/-- A pattern that closes the group around it may be accepted although it is not
well formed, and then matches a value of which it spans a part only. -/
theorem not_compileWhole_spans :
    ∃ pattern, compileWhole "cve" "1)|(?:2" = .ok pattern ∧
      Pattern.compile? true "1)|(?:2" = none ∧ pattern.isMatch "1x" = true := by
  have tested :
      (compileWhole "cve" "1)|(?:2").toOption.any (·.isMatch "1x") = true := by
    decide +kernel
  cases run : compileWhole "cve" "1)|(?:2" with
  | error error => simp [run, Except.toOption] at tested
  | ok pattern =>
      rw [run] at tested
      exact ⟨pattern, rfl, by decide +kernel, by simpa [Except.toOption] using tested⟩

end WorkloadPolicy
