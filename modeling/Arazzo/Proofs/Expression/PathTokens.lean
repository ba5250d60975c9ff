import Arazzo.Expression.Literal
import Arazzo.Expression.Path.Reader
import Mathlib.Data.List.Basic
import Mathlib.Tactic.SplitIfs

/-!
# The tokens of a path

What the tokens of a path stand for is written in its text: marks by themselves, operators between
backquotes. A text in which a quotation mark stands at the end and nowhere else has no tokens, since
nothing closes what it opens.
-/

namespace Arazzo
namespace Path

variable {cs : List Char} {c : Char} {tokens : List Token} {reading next : Reading}

/-- The characters that a token cannot do without stand in a text. -/
inductive Token.IsWritten (cs : List Char) : Token → Prop
  | name (s : String) : IsWritten cs (.name s)
  | number (i : Int) : IsWritten cs (.number i)
  | operator (s : String) : backquote ∈ cs → IsWritten cs (.operator s)
  | keywordWhere : IsWritten cs .keywordWhere
  | keywordWhereNot : IsWritten cs .keywordWhereNot
  | dots : '.' ∈ cs → IsWritten cs .dots
  | mark {c : Char} : c ∈ cs → IsWritten cs (.mark c)

/-- The character that has begun a token under way, if it matters for the token, stands in a text. -/
inductive Reading.IsWritten (cs : List Char) : Reading → Prop
  | nothing : IsWritten cs .nothing
  | word (taken : List Char) : IsWritten cs (.word taken)
  | digits (negative : Bool) (taken : List Nat) : IsWritten cs (.digits negative taken)
  | minus : IsWritten cs .minus
  | dot : '.' ∈ cs → IsWritten cs .dot
  | quoted {delimiter : Char} (taken : List Char) : delimiter ∈ cs →
      IsWritten cs (.quoted delimiter taken)
  | escaped {delimiter : Char} (taken : List Char) : delimiter ∈ cs →
      IsWritten cs (.escaped delimiter taken)

theorem isWritten_wordToken (taken : List Char) : (wordToken taken).IsWritten cs := by
  simp only [wordToken]
  split_ifs
  · exact .keywordWhere
  · exact .keywordWhereNot
  · exact .name _

theorem isWritten_quotedToken {delimiter : Char} (h : delimiter ∈ cs) (taken : List Char) :
    (quotedToken delimiter taken).IsWritten cs := by
  simp only [quotedToken]
  split_ifs with hoperator
  · exact .operator _ (hoperator ▸ h)
  · exact .name _

theorem isWritten_of_begin? (hc : c ∈ cs) (h : begin? c = some (tokens, next)) :
    (∀ t ∈ tokens, t.IsWritten cs) ∧ next.IsWritten cs := by
  unfold begin? at h
  cases hdigit : Text.digit? c with
  | some d =>
    simp only [hdigit] at h
    split_ifs at h
    · cases h
      exact ⟨by simp, .nothing⟩
    · cases h
      exact ⟨by simp, .word _⟩
    · cases h
      exact ⟨by simp, .digits ..⟩
  | none =>
    simp only [hdigit] at h
    split_ifs at h with _ _ _ _ hdot
    · cases h
      exact ⟨by simp, .nothing⟩
    · cases h
      exact ⟨by simp, .word _⟩
    · cases h
      exact ⟨by simp, .minus⟩
    · cases h
      exact ⟨by simp, .quoted _ hc⟩
    · cases h
      exact ⟨by simp, .dot (hdot ▸ hc)⟩
    · cases h
      exact ⟨List.forall_mem_singleton.mpr (.mark hc), .nothing⟩

theorem isWritten_of_finish? (hreading : reading.IsWritten cs) (h : finish? reading = some tokens) :
    ∀ t ∈ tokens, t.IsWritten cs := by
  cases hreading with
  | nothing =>
    cases h
    simp
  | word taken =>
    cases h
    exact List.forall_mem_singleton.mpr (isWritten_wordToken taken)
  | digits negative taken =>
    obtain ⟨t, ht, rfl⟩ := Option.map_eq_some_iff.mp h
    unfold numberToken? at ht
    split_ifs at ht
    obtain rfl := Option.some.inj ht
    exact List.forall_mem_singleton.mpr (.number _)
  | dot hdot =>
    cases h
    exact List.forall_mem_singleton.mpr (.mark hdot)
  | minus => cases h
  | quoted _ _ => cases h
  | escaped _ _ => cases h

theorem isWritten_of_restart? (hreading : reading.IsWritten cs) (hc : c ∈ cs)
    (h : restart? reading c = some (tokens, next)) :
    (∀ t ∈ tokens, t.IsWritten cs) ∧ next.IsWritten cs := by
  obtain ⟨done, hdone, h⟩ := Option.bind_eq_some_iff.mp h
  obtain ⟨⟨begun, reading'⟩, hbegin, h⟩ := Option.bind_eq_some_iff.mp h
  obtain ⟨rfl, rfl⟩ := Prod.mk.inj (Option.some.inj h)
  obtain ⟨hbegun, hnext⟩ := isWritten_of_begin? hc hbegin
  exact ⟨List.forall_mem_append.mpr ⟨isWritten_of_finish? hreading hdone, hbegun⟩, hnext⟩

/-- A character of a text completes and begins what is written there. -/
theorem isWritten_of_advance? (hreading : reading.IsWritten cs) (hc : c ∈ cs)
    (h : advance? reading c = some (tokens, next)) :
    (∀ t ∈ tokens, t.IsWritten cs) ∧ next.IsWritten cs := by
  have hrestart (h : restart? reading c = some (tokens, next)) :
      (∀ t ∈ tokens, t.IsWritten cs) ∧ next.IsWritten cs := isWritten_of_restart? hreading hc h
  cases hreading with
  | nothing => exact isWritten_of_begin? hc h
  | word taken =>
    rw [advance?] at h
    split_ifs at h
    · cases h
      exact ⟨by simp, .word _⟩
    · exact hrestart h
  | digits negative taken =>
    rw [advance?] at h
    split at h
    · cases h
      exact ⟨by simp, .digits ..⟩
    · exact hrestart h
  | minus =>
    obtain ⟨d, -, h⟩ := Option.map_eq_some_iff.mp h
    cases h
    exact ⟨by simp, .digits ..⟩
  | dot hdot =>
    rw [advance?] at h
    split_ifs at h
    · cases h
      exact ⟨List.forall_mem_singleton.mpr (.dots hdot), .nothing⟩
    · exact hrestart h
  | quoted taken hdelimiter =>
    rw [advance?] at h
    split_ifs at h
    · cases h
      exact ⟨List.forall_mem_singleton.mpr (isWritten_quotedToken hdelimiter taken), .nothing⟩
    · cases h
      exact ⟨by simp, .escaped _ hdelimiter⟩
    · cases h
      exact ⟨by simp, .quoted _ hdelimiter⟩
  | escaped taken hdelimiter =>
    rw [advance?] at h
    split_ifs at h
    · cases h
      exact ⟨by simp, .quoted _ hdelimiter⟩

theorem isWritten_of_tokensFrom? {rest : List Char} (hreading : reading.IsWritten cs)
    (hrest : ∀ c ∈ rest, c ∈ cs) (h : tokensFrom? reading rest = some tokens) :
    ∀ t ∈ tokens, t.IsWritten cs := by
  induction rest generalizing reading tokens with
  | nil => exact isWritten_of_finish? hreading h
  | cons c rest ih =>
    obtain ⟨hc, hrest⟩ := List.forall_mem_cons.mp hrest
    obtain ⟨⟨done, next⟩, hadvance, h⟩ := Option.bind_eq_some_iff.mp h
    obtain ⟨more, hmore, h⟩ := Option.bind_eq_some_iff.mp h
    obtain rfl := Option.some.inj h
    obtain ⟨hdone, hnext⟩ := isWritten_of_advance? hreading hc hadvance
    exact List.forall_mem_append.mpr ⟨hdone, ih hnext hrest hmore⟩

theorem isWritten_of_tokens? (h : tokens? cs = some tokens) : ∀ t ∈ tokens, t.IsWritten cs :=
  isWritten_of_tokensFrom? .nothing (fun _ hc => hc) h

/-! ## Quotation marks that nothing closes -/

variable {quote : Char}

theorem begin?_quote (h : Literal.isQuote quote = true) :
    begin? quote = some ([], .quoted quote []) := by
  rcases Literal.eq_of_isQuote h with rfl | rfl <;> rfl

theorem not_isNameChar_of_isQuote (h : Literal.isQuote quote = true) :
    isNameChar quote = false ∧ Text.digit? quote = none ∧ quote ≠ '.' ∧ quote ≠ '\\' ∧
      quote ≠ '\n' := by
  rcases Literal.eq_of_isQuote h with rfl | rfl <;> decide

/-- A quotation mark that closes nothing leaves a token under way when the text ends. -/
theorem tokensFrom?_quote (h : Literal.isQuote quote = true) (hreading : reading.IsWritten cs)
    (habsent : quote ∉ cs) : tokensFrom? reading [quote] = none := by
  obtain ⟨hname, hdigit, hdot, hescape, hline⟩ := not_isNameChar_of_isQuote h
  have hbegin := begin?_quote h
  cases hreading with
  | quoted taken hdelimiter =>
    have hne : quote ≠ _ := fun heq => habsent (heq ▸ hdelimiter)
    simp [tokensFrom?, advance?, hne, hescape, finish?]
  | escaped taken hdelimiter => simp [tokensFrom?, advance?, hline, finish?]
  | digits negative taken =>
    cases htoken : numberToken? negative taken <;>
      simp [tokensFrom?, advance?, hdigit, restart?, finish?, hbegin, htoken]
  | _ => simp [tokensFrom?, advance?, restart?, finish?, hname, hdigit, hdot, hbegin]

theorem tokensFrom?_concat_quote (h : Literal.isQuote quote = true) (habsent : quote ∉ cs)
    {rest : List Char} (hreading : reading.IsWritten cs) (hrest : ∀ c ∈ rest, c ∈ cs) :
    tokensFrom? reading (rest ++ [quote]) = none := by
  induction rest generalizing reading with
  | nil => exact tokensFrom?_quote h hreading habsent
  | cons c rest ih =>
    obtain ⟨hc, hrest⟩ := List.forall_mem_cons.mp hrest
    rw [List.cons_append, tokensFrom?]
    cases hadvance : advance? reading c with
    | none => rfl
    | some advanced =>
      obtain ⟨done, next⟩ := advanced
      obtain ⟨-, hnext⟩ := isWritten_of_advance? hreading hc hadvance
      simp [ih hnext hrest]

theorem read?_concat_quote (h : Literal.isQuote quote = true) (habsent : quote ∉ cs) :
    read? (cs ++ [quote]) = none := by
  rw [read?, tokens?, tokensFrom?_concat_quote h habsent .nothing fun _ hc => hc]
  rfl

end Path
end Arazzo
