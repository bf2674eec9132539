import QueryTree.Proofs.Sql.Conditions
import QueryTree.Proofs.Sql.Tokens

/-!
# Reading conditions by precedence

Tokens are read as a condition that is written with them and grouped as precedence groups it. There
is at most one: the last `or` outside of all parentheses parts a disjunction, and the last `and` a
conjunction, and neither can stand at the top of what binds more tightly.
-/
namespace QueryTree

namespace Token

def opens : Token → Int
  | sign '(' => 1
  | sign ')' => -1
  | _ => 0

def depth : List Token → Int
  | [] => 0
  | t :: ts => t.opens + depth ts

@[simp] theorem depth_append (ts us : List Token) : depth (ts ++ us) = depth ts + depth us := by
  induction ts with
  | nil => simp [depth]
  | cons t ts ih => simp [depth, ih, Int.add_assoc]

@[simp] theorem opens_keyword (w : String) : (keyword w).opens = 0 := rfl

/-- Every parenthesis is closed after it was opened, and none is left open. -/
structure Closed (ts : List Token) : Prop where
  depth_eq : depth ts = 0
  nonneg : ∀ us vs, ts = us ++ vs → 0 ≤ depth us

def Without (w : String) (ts : List Token) : Prop :=
  ∀ us vs, ts = us ++ .keyword w :: vs → depth us ≠ 0

structure Whole (ts : List Token) : Prop where
  closed : Closed ts
  without : ∀ w ∈ ["and", "or"], Without w ts

/-- Tokens that begin neither with a parenthesis nor with `not`. -/
def StartsAtom (ts : List Token) : Prop :=
  ∃ t us, ts = t :: us ∧ t ≠ .sign '(' ∧ t ≠ .keyword "not"

/-- Tokens that are not read any further. -/
def IsAtom (ts : List Token) : Prop := Whole ts ∧ StartsAtom ts

/-- A token that takes no part in how a condition is read. -/
def Quiet (t : Token) : Prop := t.opens = 0 ∧ ∀ w ∈ ["and", "or"], t ≠ .keyword w

instance (t : Token) : Decidable (Quiet t) := inferInstanceAs (Decidable (_ ∧ _))

variable {ts us : List Token} {t : Token} {w : String}

namespace Closed

theorem nil : Closed [] where
  depth_eq := rfl
  nonneg us vs h := by
    obtain ⟨rfl, -⟩ := List.nil_eq_append_iff.mp h
    exact Int.le_refl 0

theorem append (hts : Closed ts) (hus : Closed us) : Closed (ts ++ us) where
  depth_eq := by rw [depth_append, hts.depth_eq, hus.depth_eq, Int.add_zero]
  nonneg xs ys h := by
    rcases List.append_eq_append_iff.mp h with ⟨zs, rfl, hzs⟩ | ⟨zs, hzs, -⟩
    · have := hus.nonneg zs ys hzs
      rw [depth_append, hts.depth_eq]
      omega
    · exact hts.nonneg xs zs hzs

theorem single (h : t.opens = 0) : Closed [t] where
  depth_eq := by simp [depth, h]
  nonneg us vs huv := by
    rcases List.cons_eq_append_iff.mp huv with ⟨rfl, -⟩ | ⟨us', rfl, hus⟩
    · exact Int.le_refl 0
    · obtain ⟨rfl, -⟩ := List.nil_eq_append_iff.mp hus
      simp [depth, h]

theorem cons (h : t.opens = 0) (hts : Closed ts) : Closed (t :: ts) := (single h).append hts

/-- The part of a text in parentheses up to some point is open unless it is nothing or all. -/
theorem depth_parens (h : Closed ts) {xs ys : List Token}
    (heq : .sign '(' :: (ts ++ [.sign ')']) = xs ++ ys) :
    xs = [] ∨ 0 < depth xs ∨ ys = [] ∧ depth xs = 0 := by
  rcases List.cons_eq_append_iff.mp heq with ⟨rfl, -⟩ | ⟨xs', rfl, htail⟩
  · exact .inl rfl
  · right
    rcases List.append_eq_append_iff.mp htail with ⟨zs, rfl, hzs⟩ | ⟨zs, hzs, -⟩
    · rcases List.cons_eq_append_iff.mp hzs with ⟨rfl, -⟩ | ⟨zs', rfl, hnil⟩
      · left
        simp [depth, h.depth_eq, opens]
      · obtain ⟨rfl, rfl⟩ := List.nil_eq_append_iff.mp hnil
        right
        simp [depth, h.depth_eq, opens]
    · left
      have := h.nonneg xs' zs hzs
      simp only [depth, opens]
      omega

theorem parens (h : Closed ts) : Closed (.sign '(' :: (ts ++ [.sign ')'])) where
  depth_eq := by simp [depth, h.depth_eq, opens]
  nonneg xs ys heq := by
    rcases h.depth_parens heq with rfl | hpos | ⟨-, hzero⟩
    · exact Int.le_refl 0
    · exact Int.le_of_lt hpos
    · exact Int.le_of_eq hzero.symm

end Closed

namespace Without

theorem nil : Without w [] := fun us vs h => by simp at h

theorem append (hts : Without w ts) (hclosed : Closed ts) (hus : Without w us) :
    Without w (ts ++ us) := by
  intro xs ys h
  rcases List.append_eq_append_iff.mp h with ⟨zs, rfl, hzs⟩ | ⟨zs, hzs, hys⟩
  · have := hus zs ys hzs
    rw [depth_append, hclosed.depth_eq]
    omega
  · rcases List.cons_eq_append_iff.mp hys with ⟨rfl, hys⟩ | ⟨zs', rfl, -⟩
    · have := hus [] ys hys.symm
      exact absurd rfl this
    · exact hts xs zs' hzs

theorem single (h : t ≠ .keyword w) : Without w [t] := by
  intro us vs huv
  rcases List.cons_eq_append_iff.mp huv with ⟨rfl, hhead⟩ | ⟨us', rfl, hus⟩
  · exact absurd (List.cons.inj hhead).1.symm h
  · simp at hus

theorem cons (h : t ≠ .keyword w) (hopens : t.opens = 0) (hts : Without w ts) :
    Without w (t :: ts) :=
  (single h).append (.single hopens) hts

theorem parens (h : Closed ts) : Without w (.sign '(' :: (ts ++ [.sign ')'])) := by
  intro us vs huv
  rcases h.depth_parens huv with rfl | hpos | ⟨hnil, -⟩
  · simp [keyword] at huv
  · omega
  · simp at hnil

end Without

namespace Whole

theorem append (hts : Whole ts) (hus : Whole us) : Whole (ts ++ us) where
  closed := hts.closed.append hus.closed
  without w hw := (hts.without w hw).append hts.closed (hus.without w hw)

theorem parens (h : Closed ts) : Whole (.sign '(' :: (ts ++ [.sign ')'])) where
  closed := h.parens
  without _ _ := .parens h

theorem of_quiet (h : ∀ t ∈ ts, Quiet t) : Whole ts := by
  induction ts with
  | nil => exact ⟨.nil, fun _ _ => .nil⟩
  | cons t ts ih =>
    obtain ⟨⟨hopens, hwords⟩, hts⟩ := List.forall_mem_cons.mp h
    have hfirst : Whole [t] := ⟨.single hopens, fun w hw => .single (hwords w hw)⟩
    exact hfirst.append (ih hts)

end Whole

/-- The last place of a word outside of all parentheses is unique. -/
theorem parted_unique {ts' us' : List Token}
    (h : ts ++ .keyword w :: us = ts' ++ .keyword w :: us') (hts : depth ts = 0)
    (hts' : depth ts' = 0) (hus : Without w us) (hus' : Without w us') : ts = ts' ∧ us = us' := by
  have hlast {zs xs ys : List Token} (heq : keyword w :: xs = zs ++ keyword w :: ys)
      (hzs : depth zs = 0) (hxs : Without w xs) : zs = [] := by
    rcases List.cons_eq_append_iff.mp heq with ⟨rfl, -⟩ | ⟨zs', rfl, hzs'⟩
    · rfl
    · have := hxs zs' ys hzs'
      simp only [depth, opens_keyword] at hzs
      omega
  rcases List.append_eq_append_iff.mp h with ⟨zs, rfl, hzs⟩ | ⟨zs, rfl, hzs⟩
  · have hnil : zs = [] := hlast hzs (by simpa [hts] using hts') hus
    simpa [hnil] using hzs
  · have hnil : zs = [] := hlast hzs (by simpa [hts'] using hts) hus'
    simpa [hnil] using hzs.symm

end Token

def Symbol.tokens : Symbol (List Token) → List Token
  | atom ts => ts
  | not => [.keyword "not"]
  | and => [.keyword "and"]
  | or => [.keyword "or"]
  | opening => [.sign '(']
  | closing => [.sign ')']

/-- The words that a condition of a level has in parentheses only. -/
def Level.enclosed : Level → List String
  | .factor => ["and", "or"]
  | .conjunction => ["or"]
  | .disjunction => []

namespace Condition

open Token

def tokens (c : Condition (List Token)) : List Token := c.write Symbol.tokens

variable {c l r : Condition (List Token)} {level : Level}

@[simp] theorem tokens_atom (ts : List Token) : (atom ts).tokens = ts := write_atom ..

@[simp] theorem tokens_not : c.not.tokens = .keyword "not" :: c.tokens := write_not ..

@[simp] theorem tokens_and : (l.and r).tokens = l.tokens ++ .keyword "and" :: r.tokens :=
  write_and ..

@[simp] theorem tokens_or : (l.or r).tokens = l.tokens ++ .keyword "or" :: r.tokens :=
  write_or ..

@[simp] theorem tokens_parens : c.parens.tokens = .sign '(' :: (c.tokens ++ [.sign ')']) :=
  write_parens ..

/-- Every atom of a condition is read as one. -/
def Legible (c : Condition (List Token)) : Prop := ∀ a ∈ c.atoms, IsAtom a

theorem legible_atom {ts : List Token} : (atom ts).Legible ↔ IsAtom ts := by
  simp [Legible]

theorem legible_not : c.not.Legible ↔ c.Legible := by
  simp [Legible]

theorem legible_and : (l.and r).Legible ↔ l.Legible ∧ r.Legible := by
  simp [Legible, or_imp, forall_and]

theorem legible_or : (l.or r).Legible ↔ l.Legible ∧ r.Legible := by
  simp [Legible, or_imp, forall_and]

theorem legible_parens : c.parens.Legible ↔ c.Legible := by
  simp [Legible]

theorem closed_tokens (h : c.Legible) : Closed c.tokens := by
  induction c with
  | atom ts => simpa using (legible_atom.mp h).1.closed
  | not c ih => simpa using (ih (legible_not.mp h)).cons rfl
  | and l r ihl ihr =>
    obtain ⟨hl, hr⟩ := legible_and.mp h
    simpa using (ihl hl).append ((ihr hr).cons rfl)
  | or l r ihl ihr =>
    obtain ⟨hl, hr⟩ := legible_or.mp h
    simpa using (ihl hl).append ((ihr hr).cons rfl)
  | parens c ih => simpa using (ih (legible_parens.mp h)).parens

theorem Grouped.without (hc : Grouped level c) (h : c.Legible) :
    ∀ w ∈ level.enclosed, Without w c.tokens := by
  induction hc with
  | atom ts => simpa [Level.enclosed] using (legible_atom.mp h).1.without
  | not _ ih =>
    intro w hw
    have hne : Token.keyword "not" ≠ .keyword w := by
      simp only [Level.enclosed, List.mem_cons, List.not_mem_nil, or_false] at hw
      rcases hw with rfl | rfl <;> decide
    simpa using (ih (legible_not.mp h) w hw).cons hne rfl
  | parens hc _ =>
    intro w _
    simpa using Without.parens (closed_tokens (legible_parens.mp h))
  | factor _ ih => exact fun w hw => ih h w (.tail _ hw)
  | and _ _ ihl ihr =>
    obtain ⟨hl, hr⟩ := legible_and.mp h
    intro w hw
    obtain rfl := List.mem_singleton.mp hw
    simpa using (ihl hl "or" hw).append (closed_tokens hl)
      ((ihr hr "or" (.tail _ hw)).cons (by decide) rfl)
  | conjunction | or => exact fun w hw => by simp [Level.enclosed] at hw

/-- An atom is read as nothing else. -/
theorem Grouped.eq_atom (hc : Grouped .factor c) (h : IsAtom c.tokens) :
    c = .atom c.tokens := by
  obtain ⟨t, us, htokens, hopening, hnot⟩ := h.2
  cases hc with
  | atom ts => simp
  | not => exact absurd (List.cons.inj (tokens_not.symm.trans htokens)).1.symm hnot
  | parens => exact absurd (List.cons.inj (tokens_parens.symm.trans htokens)).1.symm hopening

/-- No word that is only in parentheses parts a condition. -/
theorem Grouped.not_parted (hc : Grouped level c) (h : c.Legible) {w : String}
    (hw : w ∈ level.enclosed) (hl : l.Legible) (us : List Token) :
    c.tokens ≠ l.tokens ++ .keyword w :: us := fun htokens =>
  hc.without h w hw _ _ htokens (closed_tokens hl).depth_eq

/-- Tokens are read as one condition at most. -/
theorem Grouped.unique {c' : Condition (List Token)} (hc : Grouped level c) (h : c.Legible)
    (hc' : Grouped level c') (h' : c'.Legible) (htokens : c.tokens = c'.tokens) : c = c' := by
  induction hc generalizing c' with
  | atom ts =>
    have hatom : IsAtom c'.tokens := by simpa [← htokens] using legible_atom.mp h
    rw [hc'.eq_atom hatom, ← htokens, tokens_atom]
  | not hc ih =>
    cases hc' with
    | atom ts' =>
      have hatom := legible_atom.mp h'
      rw [← tokens_atom ts', ← htokens] at hatom
      cases (Grouped.not hc).eq_atom hatom
    | not hc' => rw [ih (legible_not.mp h) hc' (legible_not.mp h') (by simpa using htokens)]
    | parens => simp [keyword] at htokens
  | parens hc ih =>
    cases hc' with
    | atom ts' =>
      have hatom := legible_atom.mp h'
      rw [← tokens_atom ts', ← htokens] at hatom
      cases (Grouped.parens hc).eq_atom hatom
    | not => simp [keyword] at htokens
    | parens hc' =>
      rw [ih (legible_parens.mp h) hc' (legible_parens.mp h') (by simpa using htokens)]
  | factor hc ih =>
    cases hc' with
    | factor hc' => exact ih h hc' h' htokens
    | and =>
      exact absurd (htokens.trans tokens_and)
        (hc.not_parted h (by decide) (legible_and.mp h').1 _)
  | and hl hr ihl ihr =>
    cases hc' with
    | factor hc' =>
      exact absurd (htokens.symm.trans tokens_and)
        (hc'.not_parted h' (by decide) (legible_and.mp h).1 _)
    | and hl' hr' =>
      obtain ⟨⟨hll, hlr⟩, hll', hlr'⟩ := And.intro (legible_and.mp h) (legible_and.mp h')
      obtain ⟨hleft, hright⟩ := parted_unique (by simpa using htokens)
        (closed_tokens hll).depth_eq (closed_tokens hll').depth_eq
        (hr.without hlr "and" (by decide)) (hr'.without hlr' "and" (by decide))
      rw [ihl hll hl' hll' hleft, ihr hlr hr' hlr' hright]
  | conjunction hc ih =>
    cases hc' with
    | conjunction hc' => exact ih h hc' h' htokens
    | or =>
      exact absurd (htokens.trans tokens_or)
        (hc.not_parted h (by decide) (legible_or.mp h').1 _)
  | or hl hr ihl ihr =>
    cases hc' with
    | conjunction hc' =>
      exact absurd (htokens.symm.trans tokens_or)
        (hc'.not_parted h' (by decide) (legible_or.mp h).1 _)
    | or hl' hr' =>
      obtain ⟨⟨hll, hlr⟩, hll', hlr'⟩ := And.intro (legible_or.mp h) (legible_or.mp h')
      obtain ⟨hleft, hright⟩ := parted_unique (by simpa using htokens)
        (closed_tokens hll).depth_eq (closed_tokens hll').depth_eq
        (hr.without hlr "or" (by decide)) (hr'.without hlr' "or" (by decide))
      rw [ihl hll hl' hll' hleft, ihr hlr hr' hlr' hright]

end Condition

/-- Tokens are read as a condition that is written with them, grouped by precedence. -/
structure Reads (ts : List Token) (c : Condition (List Token)) : Prop where
  grouped : c.Grouped .disjunction
  legible : c.Legible
  tokens : c.tokens = ts

theorem Reads.unique {ts : List Token} {c c' : Condition (List Token)} (h : Reads ts c)
    (h' : Reads ts c') : c = c' :=
  h.grouped.unique h.legible h'.grouped h'.legible (h.tokens.trans h'.tokens.symm)

end QueryTree
