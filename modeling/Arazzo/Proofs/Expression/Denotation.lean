import Arazzo.Proofs.Expression.Grammar
import Arazzo.Proofs.Expression.Grouping

/-!
# What a written condition denotes

Reading the text of a formula gives the tree that was written, whatever blanks stand in it, and
evaluating it gives the value of the formula: conjunctions of disjunctions from left to right, as far
as needed, with the first error and with every comparison that did not hold on the way.
-/

namespace Arazzo
namespace Grammar

open Text Scan

/-! ## Conditions -/

def Comparison.condition (c : Comparison) : Condition :=
  .comparison (String.ofList c.text) (String.ofList c.left.text) c.op (String.ofList c.right.text)

mutual

/-- What the clauses of a formula denote. -/
def Formula.conditions : Formula → List Condition
  | .one clause => [.any clause.conditions]
  | .and clause rest => .any clause.conditions :: rest.conditions

/-- What the parts of a clause denote. -/
def Clause.conditions : Clause → List Condition
  | .one _ part _ => [part.condition]
  | .or _ part _ rest => part.condition :: rest.conditions

def Part.condition : Part → Condition
  | .comparison c => c.condition
  | .group inside => .all inside.conditions
  | .notComparison _ c => .negation c.condition
  | .notGroup _ inside => .negation (.all inside.conditions)
  | .notToken _ t => .falsity (String.ofList t.chars)

end

/-! ## Comparisons -/

theorem head?_blanks_append (b : Blanks) {cs : List Char} {P : Char → Prop}
    (hblank : ∀ c, isBlank c = true → P c) (hcs : ∀ c ∈ cs.head?, P c) :
    ∀ c ∈ (b.1 ++ cs).head?, P c := by
  obtain ⟨b, hb⟩ := b
  cases b with
  | nil => exact hcs
  | cons d b =>
    intro c hc
    rw [List.cons_append, List.head?_cons, Option.mem_some_iff] at hc
    exact hc ▸ hblank d (hb d List.mem_cons_self)

theorem exists_symbol (op : Operator) :
    ∃ c cs, op.symbol.toList = c :: cs ∧ isBlank c = false ∧ Condition.isTokenChar c = false := by
  cases op <;> exact ⟨_, _, rfl, by decide, by decide⟩

theorem isNeutral_symbol (op : Operator) : Condition.IsNeutral op.symbol.toList := by
  cases op <;>
    exact Condition.isNeutral_of_plain (forall_eq_false rfl) (by decide) (by decide)

theorem Comparison.isPart (c : Comparison) : Condition.IsPart c.text := by
  have hbetween : Condition.IsNeutral (c.before.1 ++ (c.op.symbol.toList ++ c.after.1)) :=
    (Condition.isNeutral_of_allBlank c.before.2).append
      ((isNeutral_symbol c.op).append (Condition.isNeutral_of_allBlank c.after.2))
  have hpart := c.left.isPart.append c.right.isPart hbetween
  rwa [List.append_assoc, List.append_assoc] at hpart

theorem comparison?_eq_some {cs rest more left right : List Char} {op : Operator}
    {others : List (List Char × List Char)}
    (hleft : Condition.operands (trimLeft isBlank cs) = (left, rest) :: others)
    (hop : Condition.operator? (trimLeft isBlank rest) = some (op, more))
    (hright : Condition.loneOperand? more = some right) :
    Condition.comparison? cs = some (left, op, right) := by
  rw [Condition.comparison?, hleft, List.findSome?_cons]
  simp [hop, hright]

/-- A comparison that is written out is read as such. -/
theorem Comparison.comparison?_text (c : Comparison) :
    Condition.comparison? c.text = some (c.left.text, c.op, c.right.text) := by
  obtain ⟨s, symbol, hsymbol, hblank, htoken⟩ := exists_symbol c.op
  have hfirst : ∀ d ∈ (c.op.symbol.toList ++ (c.after.1 ++ c.right.text)).head?, d = s := by
    intro d hd
    rw [hsymbol, List.cons_append, List.head?_cons, Option.mem_some_iff] at hd
    exact hd.symm
  have hbehindLeft : ∀ d ∈ (c.before.1 ++ (c.op.symbol.toList ++
      (c.after.1 ++ c.right.text))).head?, Condition.isTokenChar d = false :=
    head?_blanks_append c.before (fun _ => isTokenChar_of_isBlank)
      fun d hd => hfirst d hd ▸ htoken
  have hbehindOp : ∀ d ∈ (c.after.1 ++ c.right.text).head?, d ≠ '=' := by
    refine head?_blanks_append c.after (fun d hd heq => absurd (heq ▸ hd) (by decide)) fun d hd => ?_
    obtain ⟨e, cs, htext, -, hsign⟩ := c.right.exists_text
    rw [htext, List.head?_cons, Option.mem_some_iff] at hd
    rintro rfl
    exact hsign (hd ▸ by decide)
  obtain ⟨others, hoperands⟩ := c.left.exists_operands hbehindLeft
  rw [← trimLeft_operand] at hoperands
  refine comparison?_eq_some hoperands ?_ (c.right.loneOperand?_text c.after)
  rw [trimLeft_append c.before.2, trimLeft_eq_self fun d hd => hfirst d hd ▸ hblank]
  exact operator?_symbol c.op fun heq => hbehindOp '=' heq rfl

theorem Comparison.ofComparison_text (c : Comparison) :
    Condition.ofComparison c.text = c.condition := by
  rw [Condition.ofComparison, c.comparison?_text]
  rfl

/-- A single token is no comparison. -/
theorem Token.comparison?_chars (t : Token) : Condition.comparison? t.chars = none := by
  have hnil : ∀ c ∈ ([] : List Char).head?, Condition.isTokenChar c = false := by simp
  have hoperands := t.operands_append hnil
  have htrim := trimLeft_operand (.token t) []
  rw [List.append_nil] at hoperands htrim
  rw [Condition.comparison?, show trimLeft isBlank t.chars = t.chars from htrim, hoperands]
  rfl

theorem Token.loneOperand?_chars (t : Token) : Condition.loneOperand? t.chars = some t.chars :=
  (Operand.token t).loneOperand?_text ⟨[], by simp [AllBlank]⟩

theorem Operand.head?_ne (o : Operand) (rest : List Char) {c : Char} (h : c ∈ signs) :
    (o.text ++ rest).head? ≠ some c := by
  obtain ⟨d, cs, htext, -, hsign⟩ := o.exists_text
  rw [htext, List.cons_append, List.head?_cons, ne_eq, Option.some.injEq]
  rintro rfl
  exact hsign h

theorem Operand.isWrapped_append (o : Operand) (rest : List Char) :
    isWrapped (o.text ++ rest) = false := by
  obtain ⟨d, cs, htext, -, hsign⟩ := o.exists_text
  rw [htext, List.cons_append]
  refine isWrapped_cons_of_ne ?_ _
  rintro rfl
  exact hsign (by decide)

/-! ## Formulas -/

theorem isNeutral_spaced {cs : List Char} (h : Condition.IsPart cs) (before after : Blanks) :
    Condition.IsNeutral (before.1 ++ cs ++ after.1) :=
  ((Condition.isNeutral_of_allBlank before.2).append h.toIsNeutral).append
    (Condition.isNeutral_of_allBlank after.2)

mutual

theorem Formula.closed_text : (f : Formula) → Closed f.text
  | .one clause => (Clause.closed_undivided_text clause).1
  | .and clause rest =>
    (Clause.closed_undivided_text clause).1.append
      ((closed_of_plain (forall_eq_false rfl)).append (Formula.closed_text rest))

theorem Clause.closed_undivided_text : (c : Clause) → Closed c.text ∧ Undivided '&' start c.text
  | .one before part after => by
    have hspaced := isNeutral_spaced (Part.isPart_text part) before after
    exact ⟨hspaced.closed, hspaced.undivided '&' (by decide)⟩
  | .or before part after rest => by
    have hspaced := isNeutral_spaced (Part.isPart_text part) before after
    obtain ⟨hclosed, hundivided⟩ := Clause.closed_undivided_text rest
    have hseparator : Closed ['|', '|'] := closed_of_plain (forall_eq_false rfl)
    have hsigns : Undivided '&' start ['|', '|'] := undivided_of_not_mem (by decide)
    exact ⟨hspaced.closed.append (hseparator.append hclosed),
      (hspaced.undivided '&' (by decide)).append hspaced.closed
        (hsigns.append hseparator hundivided)⟩

theorem Part.isPart_text : (p : Part) → Condition.IsPart p.text
  | .comparison c => c.isPart
  | .group inside => Condition.isPart_enclosed (Formula.closed_text inside)
  | .notComparison gap c => c.isPart.negated gap.2
  | .notGroup gap inside =>
    (Condition.isPart_enclosed (Formula.closed_text inside)).negated gap.2
  | .notToken gap t => (Operand.token t).isPart.negated gap.2

end

theorem Part.strip_spaced (p : Part) (before after : Blanks) :
    strip (before.1 ++ p.text ++ after.1) = p.text :=
  strip_append before.2 p.isPart_text.stripped after.2

theorem Clause.exists_not_blank (c : Clause) : ∃ d ∈ c.text, isBlank d = false := by
  have hpart : ∀ p : Part, ∃ d ∈ p.text, isBlank d = false := by
    intro p
    obtain ⟨d, cs, htext⟩ := List.exists_cons_of_ne_nil p.isPart_text.ne_nil
    exact ⟨d, htext ▸ List.mem_cons_self, p.isPart_text.stripped.first d (by rw [htext]; rfl)⟩
  cases c with
  | one before part after =>
    obtain ⟨d, hmem, hd⟩ := hpart part
    exact ⟨d, by simp [Clause.text, hmem], hd⟩
  | or before part after rest =>
    obtain ⟨d, hmem, hd⟩ := hpart part
    exact ⟨d, by simp [Clause.text, hmem], hd⟩

theorem Formula.strip_ne_nil (f : Formula) : strip f.text ≠ [] := by
  cases f with
  | one clause =>
    obtain ⟨d, hmem, hd⟩ := clause.exists_not_blank
    exact Text.strip_ne_nil hmem hd
  | and clause rest =>
    obtain ⟨d, hmem, hd⟩ := clause.exists_not_blank
    exact Text.strip_ne_nil (List.mem_append_left _ hmem) hd

/-- The conditions that the groups of a text denote. -/
def groupsOf (whole cs : List Char) : List Condition :=
  (split ['&', '&'] cs).map fun group =>
    .any ((split ['|', '|'] group).map (Condition.partWith Condition.read whole))

theorem Formula.read_text_of {f : Formula} (h : ∀ whole, groupsOf whole f.text = f.conditions) :
    Condition.read f.text = .all f.conditions := by
  rw [Condition.read_eq f.strip_ne_nil]
  exact congrArg Condition.all (h f.text)

mutual

theorem Formula.groupsOf_text : (f : Formula) → (whole : List Char) →
    groupsOf whole f.text = f.conditions
  | .one clause, whole => by
    obtain ⟨-, hundivided⟩ := clause.closed_undivided_text
    rw [Formula.text, groupsOf, split_of_undivided hundivided, List.map_singleton,
      split_strip (forall_eq_false rfl), Clause.partsOf_text clause whole]
    rfl
  | .and clause rest, whole => by
    obtain ⟨hclosed, hundivided⟩ := clause.closed_undivided_text
    have hrest := Formula.groupsOf_text rest whole
    rw [groupsOf] at hrest
    rw [Formula.text, groupsOf, split_append rfl hundivided hclosed.run_eq, List.map_cons,
      split_strip (forall_eq_false rfl), Clause.partsOf_text clause whole, hrest]
    rfl

theorem Clause.partsOf_text : (c : Clause) → (whole : List Char) →
    (split ['|', '|'] c.text).map (Condition.partWith Condition.read whole) = c.conditions
  | .one before part after, whole => by
    have hspaced := isNeutral_spaced part.isPart_text before after
    rw [Clause.text, split_of_undivided (hspaced.undivided '|' (by decide)), part.strip_spaced,
      List.map_singleton, Part.partWith_text part whole]
    rfl
  | .or before part after rest, whole => by
    have hspaced := isNeutral_spaced part.isPart_text before after
    rw [Clause.text, split_append rfl (hspaced.undivided '|' (by decide)) hspaced.closed.run_eq,
      part.strip_spaced, List.map_cons, Part.partWith_text part whole,
      Clause.partsOf_text rest whole]
    rfl

theorem Part.partWith_text : (p : Part) → (whole : List Char) →
    Condition.partWith Condition.read whole p.text = p.condition
  | .comparison c, whole => by
    obtain ⟨d, cs, htext, -, hsign⟩ := c.left.exists_text
    have hopen : d ≠ '(' := fun heq => hsign (heq ▸ by decide)
    have hmark : d ≠ '!' := fun heq => hsign (heq ▸ by decide)
    rw [Part.text, Part.condition, ← c.ofComparison_text, Comparison.text, htext, List.cons_append,
      Condition.partWith_cons hopen hmark]
  | .group inside, whole => by
    rw [Part.text, Condition.partWith_enclosed inside.closed_text,
      Formula.read_text_of (Formula.groupsOf_text inside)]
    rfl
  | .notComparison gap c, whole => by
    have hwrapped : ¬ isWrapped c.text = true := by
      rw [Comparison.text, c.left.isWrapped_append]
      exact Bool.false_ne_true
    rw [Part.text, Condition.partWith_negated gap.2 c.isPart.stripped
      (c.left.head?_ne _ (by decide)), if_neg hwrapped, c.comparison?_text, c.ofComparison_text]
    rfl
  | .notGroup gap inside, whole => by
    rw [Part.text, Condition.partWith_negated_enclosed gap.2 inside.closed_text,
      Formula.read_text_of (Formula.groupsOf_text inside)]
    rfl
  | .notToken gap t, whole => by
    have hstripped : IsStripped t.chars := (Operand.token t).isPart.stripped
    have hequal : t.chars.head? ≠ some '=' := by
      rw [← List.append_nil t.chars]
      exact (Operand.token t).head?_ne [] (by decide)
    have hwrapped : ¬ isWrapped t.chars = true := by
      rw [← List.append_nil t.chars]
      exact Bool.not_eq_true _ ▸ (Operand.token t).isWrapped_append []
    rw [Part.text, Condition.partWith_negated gap.2 hstripped hequal, if_neg hwrapped,
      t.comparison?_chars, t.loneOperand?_chars]
    rfl

end

/-- Reading a written formula gives back the tree. -/
theorem Formula.read_text (f : Formula) : Condition.read f.text = .all f.conditions :=
  Formula.read_text_of f.groupsOf_text

/-! ## Evaluation -/

section
variable (reader : Condition.Reader)

theorem Comparison.evaluate_condition (c : Comparison) :
    c.condition.evaluate reader = c.value reader.value := by
  rw [Comparison.condition, Condition.evaluate, Condition.compareOperands, Comparison.value]
  cases reader.value (String.ofList c.left.text) with
  | error f => rfl
  | ok l =>
    cases reader.value (String.ofList c.right.text) with
    | error f => rfl
    | ok r =>
      cases hcompare : Arazzo.Comparison.compare l c.op r with
      | error d => simp [bind, Except.bind, hcompare, Verdict.fault, Except.mapError]
      | ok holds =>
        cases holds <;> simp [bind, Except.bind, hcompare, Verdict.ofBool, Except.mapError]

theorem Token.evaluate_falsity (t : Token) :
    (Condition.falsity (String.ofList t.chars)).evaluate reader = t.falsity reader.value := by
  rw [Condition.evaluate, Token.falsity]
  cases reader.value (String.ofList t.chars) <;> rfl

mutual

theorem Formula.evaluateAll_conditions : (f : Formula) →
    Condition.evaluateAll reader f.conditions = f.value reader.value
  | .one clause => by
    rw [Formula.conditions, Condition.evaluateAll, Condition.evaluateAll, Verdict.and_ofBool_true,
      Condition.evaluate, Clause.evaluateAny_conditions clause, Formula.value]
  | .and clause rest => by
    rw [Formula.conditions, Condition.evaluateAll, Condition.evaluate,
      Clause.evaluateAny_conditions clause, Formula.evaluateAll_conditions rest, Formula.value]
    obtain ⟨failed, outcome⟩ := clause.value reader.value
    rcases outcome with f | b
    · rfl
    · cases b <;> rfl

theorem Clause.evaluateAny_conditions : (c : Clause) →
    Condition.evaluateAny reader c.conditions = c.value reader.value
  | .one _ part _ => by
    rw [Clause.conditions, Condition.evaluateAny, Condition.evaluateAny, Verdict.or_ofBool_false,
      Part.evaluate_condition part, Clause.value]
  | .or _ part _ rest => by
    rw [Clause.conditions, Condition.evaluateAny, Part.evaluate_condition part,
      Clause.evaluateAny_conditions rest, Clause.value]
    obtain ⟨failed, outcome⟩ := part.value reader.value
    rcases outcome with f | b
    · rfl
    · cases b <;> rfl

theorem Part.evaluate_condition : (p : Part) →
    p.condition.evaluate reader = p.value reader.value
  | .comparison c => c.evaluate_condition reader
  | .group inside => by
    rw [Part.condition, Condition.evaluate, Formula.evaluateAll_conditions inside, Part.value]
  | .notComparison _ c => by
    rw [Part.condition, Condition.evaluate, c.evaluate_condition reader, Part.value]
  | .notGroup _ inside => by
    rw [Part.condition, Condition.evaluate, Condition.evaluate,
      Formula.evaluateAll_conditions inside, Part.value]
  | .notToken _ t => t.evaluate_falsity reader

end

end

end Grammar

namespace Scope

open Grammar

/-- The verdict on a written formula is its value. Alternatives bind more strongly than conjunctions:
parentheses around them may stand or not. -/
theorem judge_text (scope : Scope) :
    (∀ f : Formula, scope.judge (String.ofList f.text) = f.value scope.operand) ∧
    ∀ (clause : Clause) (rest : Formula) (before after : Blanks),
      scope.judge (String.ofList (Formula.and clause rest).text) =
        scope.judge (String.ofList
          (Formula.and (.one before (.group (.one clause)) after) rest).text) := by
  have hvalue : ∀ f : Formula, scope.judge (String.ofList f.text) = f.value scope.operand := by
    intro f
    rw [judge, String.toList_ofList, f.read_text, Condition.evaluate,
      f.evaluateAll_conditions scope.reader]
    rfl
  refine ⟨hvalue, fun clause rest before after => ?_⟩
  rw [hvalue, hvalue]
  rfl

end Scope
end Arazzo
