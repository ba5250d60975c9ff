import Arazzo.Proofs.Except
import Arazzo.Yaml.Read
import Mathlib.Tactic.SplitIfs

/-!
# What keeps a text from being parsed

A text is malformed, or the reading of its tokens stops at a number that is too large: a version with too
many digits, or an escape that names no character. The parser, which makes nodes of the tokens, has no
defects of its own: all that it passes over is among the tokens, and so is what it refuses.
-/

namespace Arazzo
namespace Yaml

/-! ## Words -/

/-- Why no further token is read: the text is malformed, a version has too many digits, or an escape
names a code point that is too large, also for a signed number of 32 bits. -/
inductive StopsTokens : Refusal → Prop
  | malformed : StopsTokens .malformed
  | version : StopsTokens (.defect .unbuildableScalar)
  | character : StopsTokens (.defect .characterTooLarge)
  | code : StopsTokens (.defect .numberTooLarge)

/-- Whether a token was read; the others say why none was. -/
def Token.IsRead : Token → Prop
  | .fault _ => False
  | _ => True

section
variable (spots : List Spot)

theorem finishLine_errors : ErrorsIn StopsTokens (finishLine spots) := by
  unfold finishLine
  dsimp only
  split_ifs
  all_goals first | exact .ok _ | exact .error .malformed

theorem readName_ends {make : String → Token} (hmake : ∀ name, (make name).IsRead) :
    EndsIn (fun p => p.1.IsRead) StopsTokens (readName make spots) := by
  unfold readName
  dsimp only
  split_ifs
  · exact .malformed
  · exact hmake _

theorem uri_errors : ErrorsIn StopsTokens (uri spots) := by
  unfold uri
  dsimp only
  split_ifs
  · exact .error .malformed
  · split
    · exact .ok _
    · exact .error .malformed

theorem tagHandle_errors : ErrorsIn StopsTokens (tagHandle spots) := by
  unfold tagHandle
  dsimp only
  split_ifs
  all_goals first | exact .ok _ | exact .error .malformed

theorem tagParts_errors : ErrorsIn StopsTokens (tagParts spots) := by
  unfold tagParts
  dsimp only
  split_ifs
  · refine (uri_errors _).bind fun p => ?_
    split_ifs
    · exact .ok _
    · exact .error .malformed
  · exact .ok _
  · exact (tagHandle_errors _).bind fun p => (uri_errors _).bind fun _ => .ok _
  · exact (uri_errors _).bind fun _ => .ok _

theorem readTag_ends : EndsIn (fun p => p.1.IsRead) StopsTokens (readTag spots) := by
  refine (tagParts_errors spots).endsIn.bind fun p _ => ?_
  dsimp only
  split_ifs
  · trivial
  · exact .malformed

theorem versionNumber_errors : ErrorsIn StopsTokens (versionNumber spots) := by
  unfold versionNumber
  dsimp only
  split_ifs
  · exact .error .malformed
  · exact .error .version
  · exact .ok _

theorem version_errors : ErrorsIn StopsTokens (version spots) := by
  refine (versionNumber_errors _).bind fun p => ?_
  dsimp only
  split_ifs
  · exact .error .malformed
  · refine (versionNumber_errors _).bind fun q => ?_
    split_ifs
    · exact .ok _
    · exact .error .malformed

theorem handleDirective_errors : ErrorsIn StopsTokens (handleDirective spots) := by
  refine (tagHandle_errors _).bind fun p => ?_
  dsimp only
  split_ifs
  · exact .error .malformed
  · refine (uri_errors _).bind fun q => ?_
    split_ifs
    · exact .ok _
    · exact .error .malformed

theorem readDirective_ends : EndsIn (fun p => p.1.IsRead) StopsTokens (readDirective spots) := by
  have hdirective : ∀ x : Except Refusal (Directive × List Spot), ErrorsIn StopsTokens x →
      EndsIn (fun p => p.1.IsRead) StopsTokens
        (x >>= fun p => finishLine p.2 >>= fun rest => .ok (Token.directive p.1, rest)) := by
    intro x hx
    exact hx.endsIn.bind fun _ _ => (finishLine_errors _).endsIn.bind fun _ _ => trivial
  unfold readDirective
  dsimp only
  split
  · exact .malformed
  · split_ifs
    · exact hdirective _ (version_errors _)
    · exact hdirective _ (handleDirective_errors _)
    · exact hdirective _ (.ok _)

end

/-! ## Quoted text -/

namespace Quoted

theorem codePoint_errors (n : Nat) : ErrorsIn StopsTokens (codePoint n) := by
  unfold codePoint
  split_ifs
  · exact .ok n
  · exact .error .character
  · exact .error .code

section
variable (spots : List Spot)

theorem furtherBreaks_errors : ErrorsIn StopsTokens (furtherBreaks spots) := by
  unfold furtherBreaks
  split
  · exact .ok _
  · exact .error .malformed

theorem escape_errors : ErrorsIn StopsTokens (escape spots) := by
  unfold escape
  dsimp only
  split
  · exact .ok _
  · split
    · split_ifs
      · exact .error .malformed
      · exact (codePoint_errors _).bind fun n => .ok _
    · exact .error .malformed
  · split_ifs
    · exact (furtherBreaks_errors _).bind fun p => .ok _
    · exact .error .malformed

theorem joint_errors : ErrorsIn StopsTokens (joint spots) := by
  unfold joint
  dsimp only
  split_ifs
  · exact .error .malformed
  · exact (furtherBreaks_errors _).bind fun p => .ok _
  · exact .ok _

theorem piece_errors (double : Bool) : ErrorsIn StopsTokens (piece double spots) := by
  unfold piece
  dsimp only
  split_ifs
  all_goals first | exact joint_errors _ | exact escape_errors _ | exact .ok _

end

theorem readWithin_errors (double : Bool) (fuel : Nat) (spots : List Spot) :
    ErrorsIn StopsTokens (readWithin double fuel spots) := by
  induction fuel generalizing spots with
  | zero => exact .error .malformed
  | succ fuel ih =>
    rw [readWithin]
    refine (piece_errors spots double).bind fun p => ?_
    cases p with
    | done rest => exact .ok _
    | codes ns rest => exact (ih rest).bind fun q => .ok _

theorem read_errors (double : Bool) (spots : List Spot) : ErrorsIn StopsTokens (read double spots) :=
  (readWithin_errors double _ spots).bind fun _ => .ok _

end Quoted

/-! ## Block text -/

namespace Block

theorem indentation?_errors {c : Char} {x : Except Refusal Nat} (h : indentation? c = some x) :
    ErrorsIn StopsTokens x := by
  obtain ⟨d, -, rfl⟩ := Option.map_eq_some_iff.mp h
  split_ifs
  · exact .error .malformed
  · exact .ok d

theorem header_errors (spots : List Spot) : ErrorsIn StopsTokens (header spots) := by
  have hend : ∀ p : Header × List Spot, ErrorsIn StopsTokens (if isLineEnd (peek p.2) || peek p.2 = ' '
      then .ok p else .error .malformed) := by
    intro p
    split_ifs
    · exact .ok p
    · exact .error .malformed
  unfold header
  split
  · split
    · next hd => exact (indentation?_errors hd).bind fun d => hend (⟨_, some d⟩, spots.drop 2)
    · exact hend (⟨_, none⟩, spots.drop 1)
  · split
    · next hd =>
      split
      · exact (indentation?_errors hd).bind fun d => hend (⟨_, some d⟩, spots.drop 2)
      · exact (indentation?_errors hd).bind fun d => hend (⟨.clip, some d⟩, spots.drop 1)
    · exact hend (⟨.clip, none⟩, spots)

theorem read_errors (folded : Bool) (floor : Nat) (spots : List Spot) :
    ErrorsIn StopsTokens (read folded floor spots) := by
  exact (header_errors spots).bind fun _ => (finishLine_errors _).bind fun _ => .ok _

end Block

/-! ## Layout -/

namespace Layout

/-- All tokens so far were read. -/
def IsClean (l : Layout) : Prop := ∀ t ∈ l.tokens, t.IsRead

variable {l : Layout}

theorem IsClean.push (h : l.IsClean) {t : Token} (ht : t.IsRead) : (l.push t).IsClean :=
  List.forall_mem_cons.mpr ⟨ht, h⟩

theorem IsClean.insertAt (h : l.IsClean) {ts : List Token} (hts : ∀ t ∈ ts, t.IsRead)
    (place : Nat) : (l.insertAt place ts).IsClean := by
  intro t ht
  simp only [Layout.insertAt, List.mem_append] at ht
  rcases ht with (ht | ht) | ht
  · exact h t (List.mem_of_mem_take ht)
  · exact hts t ht
  · exact h t (List.mem_of_mem_drop ht)

theorem IsClean.unwind (h : l.IsClean) (keep : Nat → Bool) : (l.unwind keep).IsClean := by
  have hfold : ∀ (columns : List Nat) (l : Layout), l.IsClean →
      (columns.foldl (fun l _ => l.push .dedent) l).IsClean := by
    intro columns
    induction columns with
    | nil => exact fun l hl => hl
    | cons c columns ih => exact fun l hl => ih _ (hl.push trivial)
  unfold Layout.unwind
  dsimp only
  split_ifs
  · exact h
  · exact hfold _ _ h

theorem IsClean.openAt (h : l.IsClean) {t : Token} (ht : t.IsRead) (column : Nat) :
    (l.openAt column t).IsClean := by
  unfold Layout.openAt
  split_ifs
  · exact IsClean.push h ht
  · exact h

theorem refresh_errors (s : Spot) (c : Option Candidate) : ErrorsIn StopsTokens (refresh s c) := by
  unfold refresh
  split
  · exact .ok _
  · split_ifs
    all_goals first | exact .ok _ | exact .error .malformed

theorem IsClean.refreshAll (h : l.IsClean) (s : Spot) :
    EndsIn IsClean StopsTokens (l.refreshAll s) := by
  refine (refresh_errors s _).endsIn.bind fun candidate _ => ?_
  exact (ErrorsIn.mapM fun c _ => refresh_errors s c).endsIn.bind fun outer _ => h

theorem IsClean.dropCandidate (h : l.IsClean) : EndsIn IsClean StopsTokens l.dropCandidate := by
  unfold Layout.dropCandidate
  split
  · split_ifs
    · exact .malformed
    · exact h
  · exact h

theorem IsClean.saveCandidate (h : l.IsClean) (s : Spot) :
    EndsIn IsClean StopsTokens (l.saveCandidate s) := by
  unfold Layout.saveCandidate
  dsimp only
  split_ifs
  · exact h.dropCandidate.bind fun _ hl => hl
  · exact h

theorem demandKeyAllowed_errors (l : Layout) : ErrorsIn StopsTokens l.demandKeyAllowed := by
  unfold demandKeyAllowed
  split_ifs
  · exact .ok _
  · exact .error .malformed

theorem IsClean.boundary (h : l.IsClean) {t : Token} (ht : t.IsRead) :
    EndsIn IsClean StopsTokens (l.boundary t) :=
  (h.unwind _).dropCandidate.bind fun _ hl => IsClean.push hl ht

theorem IsClean.openBracket (h : l.IsClean) {t : Token} (ht : t.IsRead) (s : Spot) :
    EndsIn IsClean StopsTokens (l.openBracket t s) :=
  (h.saveCandidate s).bind fun _ hl => IsClean.push hl ht

theorem IsClean.closeBracket (h : l.IsClean) {t : Token} (ht : t.IsRead) :
    EndsIn IsClean StopsTokens (l.closeBracket t) := by
  refine h.dropCandidate.bind fun l' hl => ?_
  split
  · exact .malformed
  · exact IsClean.push hl ht

theorem IsClean.comma (h : l.IsClean) : EndsIn IsClean StopsTokens l.comma :=
  h.dropCandidate.bind fun _ hl => IsClean.push hl trivial

theorem IsClean.ifFlow {l' : Layout} (h : l.IsClean) (h' : l'.IsClean) :
    (if l.inFlow then l else l').IsClean := by
  split_ifs
  · exact h
  · exact h'

theorem IsClean.dash (h : l.IsClean) (s : Spot) : EndsIn IsClean StopsTokens (l.dash s) := by
  refine (demandKeyAllowed_errors l).endsIn.bind fun _ _ => ?_
  refine (h.ifFlow (h.openAt (by trivial) _)).dropCandidate.bind fun l' hl => ?_
  exact IsClean.push hl trivial

theorem IsClean.key (h : l.IsClean) (s : Spot) : EndsIn IsClean StopsTokens (l.key s) := by
  refine (demandKeyAllowed_errors l).endsIn.bind fun _ _ => ?_
  refine (h.ifFlow (h.openAt (by trivial) _)).dropCandidate.bind fun l' hl => ?_
  exact IsClean.push hl trivial

theorem IsClean.colon (h : l.IsClean) (s : Spot) : EndsIn IsClean StopsTokens (l.colon s) := by
  unfold Layout.colon
  split
  · refine IsClean.push (IsClean.insertAt h ?_ _) trivial
    split_ifs <;> simp [Token.IsRead]
  · refine (demandKeyAllowed_errors l).endsIn.bind fun _ _ => ?_
    exact IsClean.push (h.ifFlow (h.openAt (by trivial) _)) trivial

section
variable (s : Spot) (spots : List Spot)

theorem IsClean.word (h : l.IsClean) {read : Except Refusal (Token × List Spot)}
    (hread : EndsIn (fun p => p.1.IsRead) StopsTokens read) :
    EndsIn (fun p => p.1.IsClean) StopsTokens (l.word s read) :=
  (h.saveCandidate s).bind fun _ hl => hread.bind fun _ hp => IsClean.push hl hp

theorem IsClean.plain (h : l.IsClean) :
    EndsIn (fun p => p.1.IsClean) StopsTokens (l.plain s spots) :=
  (h.saveCandidate s).bind fun _ hl => IsClean.push hl trivial

theorem IsClean.block (h : l.IsClean) (folded : Bool) :
    EndsIn (fun p => p.1.IsClean) StopsTokens (l.block folded spots) :=
  h.dropCandidate.bind fun _ hl => (Block.read_errors _ _ _).endsIn.bind fun _ _ =>
    IsClean.push hl trivial

theorem readQuoted_ends (double : Bool) :
    EndsIn (fun p => p.1.IsRead) StopsTokens (readQuoted double spots) :=
  (Quoted.read_errors double spots).endsIn.bind fun _ _ => trivial

/-- The token that starts at a place is read, or the reading stops there. -/
theorem IsClean.token (h : l.IsClean) :
    EndsIn (fun p => p.1.IsClean) StopsTokens (l.token s spots) := by
  have hafter : ∀ {x : Except Refusal Layout}, EndsIn IsClean StopsTokens x →
      EndsIn (fun p => p.1.IsClean) StopsTokens (x.map fun l => (l, spots)) :=
    fun hx => hx.map fun _ hl => hl
  unfold Layout.token
  refine .ite (hafter (h.boundary (by trivial))) ?_
  refine .ite ((readDirective_ends _).bind fun p hp => (h.boundary hp).bind fun _ hl => hl) ?_
  refine .ite ((h.boundary (by trivial)).bind fun _ hl => hl) ?_
  refine .ite ((h.boundary (by trivial)).bind fun _ hl => hl) ?_
  refine .ite (hafter (h.openBracket (by trivial) s)) ?_
  refine .ite (hafter (h.openBracket (by trivial) s)) ?_
  refine .ite (hafter (h.closeBracket (by trivial))) ?_
  refine .ite (hafter (h.closeBracket (by trivial))) ?_
  refine .ite (hafter h.comma) (.ite (hafter (h.dash s)) (.ite (hafter (h.key s)) ?_))
  refine .ite (hafter (h.colon s)) ?_
  refine .ite (h.word s (readName_ends _ fun _ => trivial)) ?_
  refine .ite (h.word s (readName_ends _ fun _ => trivial)) ?_
  refine .ite (h.word s (readTag_ends _)) (.ite (h.block spots false) (.ite (h.block spots true) ?_))
  refine .ite (h.word s (readQuoted_ends _ _)) (.ite (h.word s (readQuoted_ends _ _)) ?_)
  exact .ite (h.plain s _) .malformed

theorem IsClean.next (h : l.IsClean) :
    EndsIn (fun p => p.1.IsClean) StopsTokens (l.next spots) := by
  have hallowed : IsClean (if (skip false spots).1 && !l.inFlow then { l with keyAllowed := true }
      else l) := by
    split_ifs <;> exact h
  unfold Layout.next
  dsimp only
  split
  · exact (hallowed.boundary (by trivial)).bind fun _ hl => hl
  · exact (hallowed.refreshAll _).bind fun l' hl => (hl.unwind _).token _ _

end

theorem IsClean.faults_read (fuel : Nat) (h : l.IsClean) (spots : List Spot) {r : Refusal}
    (hr : Token.fault r ∈ l.read fuel spots) : StopsTokens r := by
  have hnone : ∀ {l : Layout}, l.IsClean → Token.fault r ∉ l.tokens.reverse :=
    fun hl hmem => hl _ (List.mem_reverse.mp hmem)
  induction fuel generalizing l spots with
  | zero => exact absurd hr (hnone h)
  | succ fuel ih =>
    have hnext := h.next spots
    rw [Layout.read] at hr
    split at hr
    · next r' heq =>
      rw [heq] at hnext
      rw [List.mem_reverse, List.mem_cons] at hr
      rcases hr with hr | hr
      · rw [Token.fault.injEq] at hr
        exact hr ▸ hnext
      · exact absurd (List.mem_reverse.mpr hr) (hnone h)
    · next l' rest heq =>
      rw [heq] at hnext
      split_ifs at hr
      · exact absurd hr (hnone hnext)
      · exact ih hnext rest hr

end Layout

/-- What the tokens of a text refuse. -/
theorem stopsTokens_of_mem {spots : List Spot} {r : Refusal} (h : Token.fault r ∈ tokens spots) :
    StopsTokens r :=
  Layout.IsClean.faults_read _ (fun _ ht => absurd ht List.not_mem_nil) spots h

/-! ## The parser -/

namespace Document

/-- A step of the parser leaves out tokens at most, and refuses what is malformed or what one of the
tokens refuses. -/
abbrev Passes {α : Type} (ts : List Token) (m : Parse α) : Prop :=
  Maintains (fun r => r.tokens ⊆ ts) (fun e => e = .malformed ∨ Token.fault e ∈ ts) (fun _ => True) m

variable {ts : List Token}

theorem malformed_passes {α : Type} : Passes ts (malformed : Parse α) :=
  .fail (.inl rfl)

theorem peek_passes : Passes ts peek := by
  rintro ⟨tokens, handles, nodes, anchors⟩ hsub
  rcases tokens with _ | ⟨t, tokens⟩
  · exact .inl rfl
  · cases t with
    | fault r => exact .inr (hsub List.mem_cons_self)
    | _ => exact ⟨hsub, trivial⟩

theorem advance_passes : Passes ts advance :=
  .modify fun r hsub => List.Subset.trans (List.drop_subset 1 r.tokens) hsub

theorem expect_passes (t : Token) : Passes ts (expect t) := by
  unfold expect
  refine peek_passes.bind fun next _ => .ite ?_ ?_
  · exact fun _ => advance_passes
  · exact fun _ => malformed_passes

/-- All members of a collection but the first have a comma in front of them. -/
theorem comma_passes {α : Type} {m : Parse α} (first : Bool) (hm : Passes ts m) :
    Passes ts (if !first then expect .comma >>= fun _ => m else m) :=
  .ite (fun _ => (expect_passes .comma).bind fun _ _ => hm) fun _ => hm

/-! ### Properties -/

theorem tagUri_passes (handle : Option String) (suffix : String) :
    Passes ts (tagUri handle suffix) := by
  unfold tagUri
  split
  · exact .pure trivial
  · refine .bind .get fun r _ => ?_
    split
    · exact .pure trivial
    · exact malformed_passes

theorem anchor?_passes : Passes ts anchor? := by
  unfold anchor?
  refine peek_passes.bind fun t _ => ?_
  split
  · exact advance_passes.bind fun _ _ => .pure trivial
  · exact .pure trivial

theorem tag?_passes : Passes ts tag? := by
  unfold tag?
  refine peek_passes.bind fun t _ => ?_
  split
  · exact advance_passes.bind fun _ _ => (tagUri_passes _ _).map fun _ _ => trivial
  · exact .pure trivial

theorem properties_passes : Passes ts properties := by
  unfold properties
  refine anchor?_passes.bind fun anchor _ => ?_
  split
  · exact tag?_passes.bind fun _ _ => .pure trivial
  · refine tag?_passes.bind fun tag _ => ?_
    split
    · exact anchor?_passes.bind fun _ _ => .pure trivial
    · exact .pure trivial

theorem reserve_passes : Passes ts reserve :=
  .bind .get fun _ _ => .bind (.modify fun _ hsub => hsub) fun _ _ => .pure trivial

theorem fill_passes (place : Nat) (n : Node) : Passes ts (fill place n) :=
  .modify fun _ hsub => hsub

theorem add_passes (n : Node) : Passes ts (add n) :=
  reserve_passes.bind fun place _ => (fill_passes place n).bind fun _ _ => .pure trivial

theorem setAnchor_passes (place : Nat) (name : Option String) : Passes ts (setAnchor place name) := by
  unfold setAnchor
  split
  · exact .pure trivial
  · refine .bind .get fun r _ => .ite ?_ ?_
    · exact fun _ => malformed_passes
    · exact fun _ => .modify fun _ hsub => hsub

theorem ofAlias_passes (name : String) : Passes ts (ofAlias name) := by
  refine .bind .get fun r _ => ?_
  split
  · exact .pure trivial
  · exact malformed_passes

theorem missing_passes (ends : List Token) : Passes ts (missing ends) :=
  peek_passes.bind fun _ _ => .pure trivial

/-! ### Nodes -/

/-- The parsers of nodes with a bound on their depth. -/
structure NodesPass (ts : List Token) (fuel : Nat) : Prop where
  node : ∀ place, Passes ts (node place fuel)
  content : ∀ place hasProperties tag, Passes ts (content place hasProperties tag fuel)
  nodeBefore : ∀ ends place, Passes ts (nodeBefore ends place fuel)
  blockItems : Passes ts (blockItems fuel)
  dashedItems : Passes ts (dashedItems fuel)
  valueBefore : ∀ ends place, Passes ts (valueBefore ends place fuel)
  blockEntries : Passes ts (blockEntries fuel)
  flowPair : ∀ close, Passes ts (flowPair close fuel)
  flowItems : ∀ first, Passes ts (flowItems first fuel)
  flowEntries : ∀ first, Passes ts (flowEntries first fuel)

namespace NodesPass

variable {fuel : Nat}

theorem node_succ (h : NodesPass ts fuel) (place : Place) :
    Passes ts (Document.node place (fuel + 1)) := by
  rw [Document.node]
  refine peek_passes.bind fun t _ => ?_
  split
  · exact advance_passes.bind fun _ _ => ofAlias_passes _
  · refine properties_passes.bind fun p _ => reserve_passes.bind fun i _ => ?_
    refine (setAnchor_passes i p.1).bind fun _ _ => (h.content _ _ _).bind fun n _ => ?_
    exact (fill_passes i n).bind fun _ _ => .pure trivial

theorem content_succ (h : NodesPass ts fuel) (place : Place) (hasProperties : Bool)
    (tag : Option String) : Passes ts (Document.content place hasProperties tag (fuel + 1)) := by
  rw [Document.content]
  have hotherwise : Passes ts (if hasProperties then
      pure ⟨scalarTag tag "" true, .scalar ""⟩ else malformed : Parse Node) :=
    .ite (fun _ => .pure trivial) fun _ => malformed_passes
  refine peek_passes.bind fun t _ => ?_
  split
  · exact advance_passes.bind fun _ _ => .pure trivial
  · exact advance_passes.bind fun _ _ => (h.flowItems true).bind fun _ _ => .pure trivial
  · exact advance_passes.bind fun _ _ => (h.flowEntries true).bind fun _ _ => .pure trivial
  · exact .ite (fun _ => hotherwise) fun _ =>
      advance_passes.bind fun _ _ => h.blockItems.bind fun _ _ => .pure trivial
  · exact .ite (fun _ => hotherwise) fun _ =>
      advance_passes.bind fun _ _ => h.blockEntries.bind fun _ _ => .pure trivial
  · exact .ite (fun _ => h.dashedItems.bind fun _ _ => .pure trivial) fun _ => hotherwise
  · exact hotherwise

theorem nodeBefore_succ (h : NodesPass ts fuel) (ends : List Token) (place : Place) :
    Passes ts (Document.nodeBefore ends place (fuel + 1)) := by
  rw [Document.nodeBefore]
  refine (missing_passes ends).bind fun _ _ => .ite ?_ ?_
  · exact fun _ => add_passes _
  · exact fun _ => h.node place

theorem blockItems_succ (h : NodesPass ts fuel) : Passes ts (Document.blockItems (fuel + 1)) := by
  rw [Document.blockItems]
  refine peek_passes.bind fun t _ => ?_
  split
  · refine advance_passes.bind fun _ _ => (h.nodeBefore _ _).bind fun _ _ => ?_
    exact h.blockItems.bind fun _ _ => .pure trivial
  · exact advance_passes.bind fun _ _ => .pure trivial
  · exact malformed_passes

theorem dashedItems_succ (h : NodesPass ts fuel) : Passes ts (Document.dashedItems (fuel + 1)) := by
  rw [Document.dashedItems]
  refine peek_passes.bind fun t _ => ?_
  split
  · refine advance_passes.bind fun _ _ => (h.nodeBefore _ _).bind fun _ _ => ?_
    exact h.dashedItems.bind fun _ _ => .pure trivial
  · exact .pure trivial

theorem valueBefore_succ (h : NodesPass ts fuel) (ends : List Token) (place : Place) :
    Passes ts (Document.valueBefore ends place (fuel + 1)) := by
  rw [Document.valueBefore]
  refine peek_passes.bind fun t _ => ?_
  split
  · exact advance_passes.bind fun _ _ => h.nodeBefore _ _
  · exact add_passes _

theorem blockEntries_succ (h : NodesPass ts fuel) :
    Passes ts (Document.blockEntries (fuel + 1)) := by
  rw [Document.blockEntries]
  refine peek_passes.bind fun t _ => ?_
  split
  · refine advance_passes.bind fun _ _ => (h.nodeBefore _ _).bind fun _ _ => ?_
    refine (h.valueBefore _ _).bind fun _ _ => ?_
    exact h.blockEntries.bind fun _ _ => .pure trivial
  · exact advance_passes.bind fun _ _ => .pure trivial
  · exact malformed_passes

theorem flowPair_succ (h : NodesPass ts fuel) (close : Token) :
    Passes ts (Document.flowPair close (fuel + 1)) := by
  rw [Document.flowPair]
  exact (h.nodeBefore _ _).bind fun _ _ => (h.valueBefore _ _).bind fun _ _ => .pure trivial

theorem flowItems_succ (h : NodesPass ts fuel) (first : Bool) :
    Passes ts (Document.flowItems first (fuel + 1)) := by
  rw [Document.flowItems]
  refine (missing_passes _).bind fun _ _ => .ite ?_ fun _ => ?_
  · exact fun _ => advance_passes.bind fun _ _ => .pure trivial
  · refine comma_passes first (peek_passes.bind fun t _ => ?_)
    split
    · exact advance_passes.bind fun _ _ => .pure trivial
    · refine advance_passes.bind fun _ _ => (h.flowPair _).bind fun _ _ => ?_
      refine (add_passes _).bind fun _ _ => ?_
      exact (h.flowItems false).bind fun _ _ => .pure trivial
    · refine (h.node .flow).bind fun _ _ => ?_
      exact (h.flowItems false).bind fun _ _ => .pure trivial

theorem flowEntries_succ (h : NodesPass ts fuel) (first : Bool) :
    Passes ts (Document.flowEntries first (fuel + 1)) := by
  rw [Document.flowEntries]
  refine (missing_passes _).bind fun _ _ => .ite ?_ fun _ => ?_
  · exact fun _ => advance_passes.bind fun _ _ => .pure trivial
  · refine comma_passes first (peek_passes.bind fun t _ => ?_)
    split
    · exact advance_passes.bind fun _ _ => .pure trivial
    · refine advance_passes.bind fun _ _ => (h.flowPair _).bind fun _ _ => ?_
      exact (h.flowEntries false).bind fun _ _ => .pure trivial
    · refine (h.node .flow).bind fun _ _ => (add_passes _).bind fun _ _ => ?_
      exact (h.flowEntries false).bind fun _ _ => .pure trivial

end NodesPass

theorem nodesPass (ts : List Token) (fuel : Nat) : NodesPass ts fuel := by
  induction fuel with
  | zero => constructor <;> intros <;> exact malformed_passes
  | succ fuel ih =>
    exact ⟨ih.node_succ, ih.content_succ, ih.nodeBefore_succ, ih.blockItems_succ,
      ih.dashedItems_succ, ih.valueBefore_succ, ih.blockEntries_succ, ih.flowPair_succ,
      ih.flowItems_succ, ih.flowEntries_succ⟩

/-! ### Documents -/

theorem directives_passes (fuel : Nat) (versioned : Bool) (handles : List (String × String)) :
    Passes ts (directives fuel versioned handles) := by
  induction fuel generalizing versioned handles with
  | zero => exact malformed_passes
  | succ fuel ih =>
    rw [directives]
    refine peek_passes.bind fun t _ => ?_
    split
    · refine advance_passes.bind fun _ _ => ?_
      split
      · exact .ite (fun _ => malformed_passes) fun _ => ih _ _
      · exact .ite (fun _ => malformed_passes) fun _ => ih _ _
      · exact ih _ _
    · exact .pure trivial

theorem root?_passes (fuel : Nat) : Passes ts (root? fuel) := by
  unfold root?
  refine peek_passes.bind fun t _ => ?_
  split
  · exact .pure trivial
  · have hnode : Passes ts (some <$> node .block fuel) :=
      ((nodesPass ts fuel).node .block).map fun _ _ => trivial
    refine .ite (fun _ => ?_) fun _ => hnode
    refine (directives_passes _ _ _).bind fun handles _ => (expect_passes _).bind fun _ _ => ?_
    refine .bind (.modify fun _ hsub => hsub) fun _ _ => peek_passes.bind fun t _ => ?_
    exact .ite (fun _ => (add_passes _).map fun _ _ => trivial) fun _ => hnode

theorem finish_passes (fuel : Nat) : Passes ts (finish fuel) := by
  induction fuel with
  | zero => exact malformed_passes
  | succ fuel ih =>
    rw [finish]
    refine peek_passes.bind fun t _ => ?_
    split
    · exact advance_passes.bind fun _ _ => ih
    · exact .pure trivial
    · exact malformed_passes

/-- What the parser refuses is malformed, or one of the tokens refuses it. -/
theorem ofTokens_errors (ts : List Token) :
    ErrorsIn (fun e => e = .malformed ∨ Token.fault e ∈ ts) (ofTokens ts) := by
  have hroot := root?_passes (4 * ts.length + 4) ⟨ts, defaultHandles, #[], []⟩ (List.Subset.refl ts)
  refine (hroot.bind fun p hp => ?_ : EndsIn (fun _ => True) _ (ofTokens ts)).errorsIn
  exact (finish_passes _ p.2 hp.1).bind fun _ _ => trivial

end Document
end Yaml
end Arazzo
