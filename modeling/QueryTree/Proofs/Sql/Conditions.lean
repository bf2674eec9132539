/-!
# Conditions

A condition is written flat: only its parentheses show how it is grouped. Where they do not, the
text is read by precedence: `not` before `and` before `or`, and equal operators from the left. So a
condition is read as another one, its regrouping, which is written in the same way and is grouped as
precedence has it. Both mean the same if every operand binds at least as tightly as its operator.
-/
namespace QueryTree

/-- A condition over atoms, with the parentheses that are written. -/
inductive Condition (α : Type)
  | atom (a : α)
  | not (c : Condition α)
  | and (l r : Condition α)
  | or (l r : Condition α)
  | parens (c : Condition α)
  deriving DecidableEq

inductive Symbol (α : Type)
  | atom (a : α)
  | not | and | or | opening | closing
  deriving DecidableEq

def Symbol.atoms {α : Type} : Symbol α → List α
  | atom a => [a]
  | _ => []

inductive Level
  | factor | conjunction | disjunction
  deriving DecidableEq

namespace Condition

variable {α : Type}

/-- The truth of a condition, given that of its atoms. -/
def eval (v : α → Bool) : Condition α → Bool
  | atom a => v a
  | not c => !c.eval v
  | and l r => l.eval v && r.eval v
  | or l r => l.eval v || r.eval v
  | parens c => c.eval v

def symbols : Condition α → List (Symbol α)
  | atom a => [.atom a]
  | not c => .not :: c.symbols
  | and l r => l.symbols ++ .and :: r.symbols
  | or l r => l.symbols ++ .or :: r.symbols
  | parens c => .opening :: (c.symbols ++ [.closing])

section

variable {β : Type} (f : Symbol α → List β)

/-- What is written for the symbols of a condition, one after another. -/
def write (c : Condition α) : List β := c.symbols.flatMap f

@[simp] theorem write_atom (a : α) : (atom a).write f = f (.atom a) := by
  simp [write, symbols]

@[simp] theorem write_not (c : Condition α) : c.not.write f = f .not ++ c.write f := by
  simp [write, symbols]

@[simp] theorem write_and (l r : Condition α) :
    (l.and r).write f = l.write f ++ (f .and ++ r.write f) := by
  simp [write, symbols]

@[simp] theorem write_or (l r : Condition α) :
    (l.or r).write f = l.write f ++ (f .or ++ r.write f) := by
  simp [write, symbols]

@[simp] theorem write_parens (c : Condition α) :
    c.parens.write f = f .opening ++ (c.write f ++ f .closing) := by
  simp [write, symbols]

end

def atoms (c : Condition α) : List α := c.write Symbol.atoms

@[simp] theorem atoms_atom (a : α) : (atom a).atoms = [a] := write_atom ..

@[simp] theorem atoms_not (c : Condition α) : c.not.atoms = c.atoms := write_not ..

@[simp] theorem atoms_and (l r : Condition α) : (l.and r).atoms = l.atoms ++ r.atoms :=
  write_and ..

@[simp] theorem atoms_or (l r : Condition α) : (l.or r).atoms = l.atoms ++ r.atoms :=
  write_or ..

@[simp] theorem atoms_parens (c : Condition α) : c.parens.atoms = c.atoms := by
  simp [atoms, Symbol.atoms]

/-- A condition that is grouped as precedence groups its symbols. -/
inductive Grouped : Level → Condition α → Prop
  | atom (a : α) : Grouped .factor (.atom a)
  | not {c} : Grouped .factor c → Grouped .factor (.not c)
  | parens {c} : Grouped .disjunction c → Grouped .factor (.parens c)
  | factor {c} : Grouped .factor c → Grouped .conjunction c
  | and {l r} : Grouped .conjunction l → Grouped .factor r → Grouped .conjunction (.and l r)
  | conjunction {c} : Grouped .conjunction c → Grouped .disjunction c
  | or {l r} : Grouped .disjunction l → Grouped .conjunction r → Grouped .disjunction (.or l r)

/-- A condition with parentheses wherever an operand binds less tightly than its operator. -/
inductive Delimited : Level → Condition α → Prop
  | atom (a : α) : Delimited .factor (.atom a)
  | not {c} : Delimited .factor c → Delimited .factor (.not c)
  | parens {c} : Delimited .disjunction c → Delimited .factor (.parens c)
  | factor {c} : Delimited .factor c → Delimited .conjunction c
  | and {l r} : Delimited .conjunction l → Delimited .conjunction r →
      Delimited .conjunction (.and l r)
  | conjunction {c} : Delimited .conjunction c → Delimited .disjunction c
  | or {l r} : Delimited .disjunction l → Delimited .disjunction r →
      Delimited .disjunction (.or l r)

/-- The same condition over other atoms, each of which stands for the one in its place. -/
inductive Matches {β : Type} (r : α → β → Prop) : Condition α → Condition β → Prop
  | atom {a b} : r a b → Matches r (.atom a) (.atom b)
  | not {c d} : Matches r c d → Matches r (.not c) (.not d)
  | and {c d c' d'} : Matches r c d → Matches r c' d' → Matches r (.and c c') (.and d d')
  | or {c d c' d'} : Matches r c d → Matches r c' d' → Matches r (.or c c') (.or d d')
  | parens {c d} : Matches r c d → Matches r (.parens c) (.parens d)

theorem Matches.grouped {β : Type} {r : α → β → Prop} {c : Condition α} {d : Condition β}
    {level : Level} (h : Matches r c d) (hd : Grouped level d) : Grouped level c := by
  induction hd generalizing c with
  | atom => cases h with | atom => exact .atom _
  | not _ ih => cases h with | not h => exact .not (ih h)
  | parens _ ih => cases h with | parens h => exact .parens (ih h)
  | factor _ ih => exact .factor (ih h)
  | and _ _ ihl ihr => cases h with | and hl hr => exact .and (ihl hl) (ihr hr)
  | conjunction _ ih => exact .conjunction (ih h)
  | or _ _ ihl ihr => cases h with | or hl hr => exact .or (ihl hl) (ihr hr)

theorem Matches.length_atoms {β : Type} {r : α → β → Prop} {c : Condition α} {d : Condition β}
    (h : Matches r c d) : c.atoms.length = d.atoms.length := by
  induction h with
  | atom => simp
  | not _ ih => simpa using ih
  | and _ _ ihl ihr => simp [ihl, ihr]
  | or _ _ ihl ihr => simp [ihl, ihr]
  | parens _ ih => simpa using ih

theorem Matches.mono {β : Type} {r r' : α → β → Prop} {c : Condition α} {d : Condition β}
    (h : Matches r c d) (hr : ∀ a b, r a b → r' a b) : Matches r' c d := by
  induction h with
  | atom h => exact .atom (hr _ _ h)
  | not _ ih => exact .not ih
  | and _ _ ihl ihr => exact .and ihl ihr
  | or _ _ ihl ihr => exact .or ihl ihr
  | parens _ ih => exact .parens ih

/-- A condition is determined by its atoms and by another of the same form. -/
theorem Matches.unique {β : Type} {r r' : α → β → Prop} {c : Condition α} {d d' : Condition β}
    (h : Matches r c d) (h' : Matches r' c d') (hatoms : d.atoms = d'.atoms) : d = d' := by
  induction h generalizing d' with
  | atom => cases h' with | atom => simpa using hatoms
  | not _ ih => cases h' with | not h' => rw [ih h' (by simpa using hatoms)]
  | and hl _ ihl ihr =>
    cases h' with
    | and hl' hr' =>
      rw [atoms_and, atoms_and] at hatoms
      obtain ⟨hleft, hright⟩ := List.append_inj hatoms
        (hl.length_atoms.symm.trans hl'.length_atoms)
      rw [ihl hl' hleft, ihr hr' hright]
  | or hl _ ihl ihr =>
    cases h' with
    | or hl' hr' =>
      rw [atoms_or, atoms_or] at hatoms
      obtain ⟨hleft, hright⟩ := List.append_inj hatoms
        (hl.length_atoms.symm.trans hl'.length_atoms)
      rw [ihl hl' hleft, ihr hr' hright]
  | parens _ ih => cases h' with | parens h' => rw [ih h' (by simpa using hatoms)]

def negateFirst : Condition α → Condition α
  | or l r => or l.negateFirst r
  | and l r => and l.negateFirst r
  | c => not c

/-- What a condition is read as before `and` with a factor. -/
def addFactor : Condition α → Condition α → Condition α
  | or l r, f => or l (and r f)
  | c, f => and c f

def conjoin (c : Condition α) : Condition α → Condition α
  | or l r => or (c.conjoin l) r
  | and l r => (c.conjoin l).addFactor r
  | f => c.addFactor f

def disjoin (c : Condition α) : Condition α → Condition α
  | or l r => or (c.disjoin l) r
  | d => or c d

def regroup : Condition α → Condition α
  | atom a => atom a
  | not c => c.regroup.negateFirst
  | and l r => l.regroup.conjoin r.regroup
  | or l r => l.regroup.disjoin r.regroup
  | parens c => parens c.regroup

@[simp] theorem symbols_negateFirst (c : Condition α) :
    c.negateFirst.symbols = .not :: c.symbols := by
  induction c with
  | atom | not | parens => rfl
  | and l r ihl => simp [negateFirst, symbols, ihl]
  | or l r ihl => simp [negateFirst, symbols, ihl]

@[simp] theorem symbols_addFactor (c f : Condition α) :
    (c.addFactor f).symbols = c.symbols ++ .and :: f.symbols := by
  cases c <;> simp [addFactor, symbols]

@[simp] theorem symbols_conjoin (c d : Condition α) :
    (c.conjoin d).symbols = c.symbols ++ .and :: d.symbols := by
  induction d with
  | atom | not | parens => simp [conjoin]
  | and l r ihl => simp [conjoin, symbols, ihl]
  | or l r ihl => simp [conjoin, symbols, ihl]

@[simp] theorem symbols_disjoin (c d : Condition α) :
    (c.disjoin d).symbols = c.symbols ++ .or :: d.symbols := by
  induction d with
  | atom | not | and | parens => rfl
  | or l r ihl => simp [disjoin, symbols, ihl]

private theorem symbols_regroup (c : Condition α) : c.regroup.symbols = c.symbols := by
  induction c with
  | atom a => rfl
  | not c ih => simp [regroup, symbols, ih]
  | and l r ihl ihr => simp [regroup, symbols, ihl, ihr]
  | or l r ihl ihr => simp [regroup, symbols, ihl, ihr]
  | parens c ih => simp [regroup, symbols, ih]

theorem write_regroup {β : Type} (f : Symbol α → List β) (c : Condition α) :
    c.regroup.write f = c.write f := by
  rw [write, symbols_regroup, write]

/-- A disjunction falls apart before `and`. -/
example (a b c : α) : (((atom a).or (atom b)).and (atom c)).regroup =
    (atom a).or ((atom b).and (atom c)) := rfl

namespace Grouped

variable {c d f : Condition α} {level : Level}

theorem negateFirst (h : Grouped level c) : Grouped level c.negateFirst := by
  induction h with
  | atom a => exact .not (.atom a)
  | not h _ => exact .not (.not h)
  | parens h _ => exact .not (.parens h)
  | factor _ ih => exact .factor ih
  | and _ hr ihl => exact .and ihl hr
  | conjunction _ ih => exact .conjunction ih
  | or _ hr ihl => exact .or ihl hr

private theorem negateFirst_eq (h : Grouped .factor c) : c.negateFirst = .not c := by
  cases h <;> rfl

theorem addFactor_eq (h : Grouped .conjunction c) (f : Condition α) :
    c.addFactor f = .and c f := by
  cases h with
  | factor h => cases h <;> rfl
  | and => rfl

theorem addFactor (hc : Grouped .disjunction c) (hf : Grouped .factor f) :
    Grouped .disjunction (c.addFactor f) := by
  cases hc with
  | conjunction h => exact h.addFactor_eq f ▸ .conjunction (.and h hf)
  | or hl hr => exact .or hl (.and hr hf)

theorem conjoin (hc : Grouped .disjunction c) (hd : Grouped level d) :
    Grouped .disjunction (c.conjoin d) := by
  induction hd with
  | atom a => exact hc.addFactor (.atom a)
  | not h _ => exact hc.addFactor (.not h)
  | parens h _ => exact hc.addFactor (.parens h)
  | factor _ ih => exact ih
  | and _ hr ihl => exact ihl.addFactor hr
  | conjunction _ ih => exact ih
  | or _ hr ihl => exact .or ihl hr

theorem disjoin (hc : Grouped .disjunction c) (hd : Grouped level d) :
    Grouped .disjunction (c.disjoin d) := by
  induction hd with
  | atom a => exact .or hc (.factor (.atom a))
  | not h _ => exact .or hc (.factor (.not h))
  | parens h _ => exact .or hc (.factor (.parens h))
  | factor _ ih => exact ih
  | and hl hr _ => exact .or hc (.and hl hr)
  | conjunction _ ih => exact ih
  | or _ hr ihl => exact .or ihl hr

end Grouped

theorem grouped_regroup (c : Condition α) : Grouped .disjunction c.regroup := by
  induction c with
  | atom a => exact .conjunction (.factor (.atom a))
  | not c ih => exact ih.negateFirst
  | and l r ihl ihr => exact ihl.conjoin ihr
  | or l r ihl ihr => exact ihl.disjoin ihr
  | parens c ih => exact .conjunction (.factor (.parens ih))

variable {c d : Condition α} {level : Level}

theorem eval_disjoin (v : α → Bool) (c d : Condition α) :
    (c.disjoin d).eval v = (c.eval v || d.eval v) := by
  induction d with
  | atom | not | and | parens => rfl
  | or l r ihl => simp [disjoin, eval, ihl, Bool.or_assoc]

/-- No disjunction is torn apart by `and` if there is none on either side of it. -/
private theorem Grouped.conjoin_of_ne (hc : Grouped .conjunction c) (hd : Grouped level d)
    (hlevel : level ≠ .disjunction) :
    Grouped .conjunction (c.conjoin d) ∧
      ∀ v, (c.conjoin d).eval v = (c.eval v && d.eval v) := by
  have hfactor {f : Condition α} (hf : Grouped .factor f) (h : c.conjoin f = c.addFactor f) :
      Grouped .conjunction (c.conjoin f) ∧
        ∀ v, (c.conjoin f).eval v = (c.eval v && f.eval v) := by
    rw [h, hc.addFactor_eq f]
    exact ⟨.and hc hf, fun _ => rfl⟩
  induction hd with
  | atom a => exact hfactor (.atom a) rfl
  | not h _ => exact hfactor (.not h) rfl
  | parens h _ => exact hfactor (.parens h) rfl
  | factor _ ih => exact ih (by decide)
  | @and l r _ hr ihl _ =>
    obtain ⟨hgrouped, heval⟩ := ihl (by decide)
    rw [Condition.conjoin, hgrouped.addFactor_eq r]
    exact ⟨.and hgrouped hr, fun v => by simp [eval, heval, Bool.and_assoc]⟩
  | conjunction | or => contradiction

theorem Delimited.regroup (h : Delimited level c) :
    Grouped level c.regroup ∧ ∀ v, c.regroup.eval v = c.eval v := by
  induction h with
  | atom a => exact ⟨.atom a, fun _ => rfl⟩
  | @not c _ ih =>
    obtain ⟨hgrouped, heval⟩ := ih
    have hregroup : c.not.regroup = c.regroup.not := hgrouped.negateFirst_eq
    exact ⟨hregroup ▸ .not hgrouped, fun v => by simp [hregroup, eval, heval]⟩
  | parens _ ih => exact ⟨.parens ih.1, ih.2⟩
  | factor _ ih => exact ⟨.factor ih.1, ih.2⟩
  | and _ _ ihl ihr =>
    obtain ⟨hgrouped, heval⟩ := ihl.1.conjoin_of_ne ihr.1 (by decide)
    exact ⟨hgrouped, fun v => by rw [Condition.regroup, heval, ihl.2, ihr.2, eval]⟩
  | conjunction _ ih => exact ⟨.conjunction ih.1, ih.2⟩
  | or _ _ ihl ihr =>
    exact ⟨ihl.1.disjoin ihr.1,
      fun v => by rw [Condition.regroup, eval_disjoin, ihl.2, ihr.2, eval]⟩

end Condition

inductive Connective
  | and | or
  deriving DecidableEq, Repr

namespace Connective

open Condition

variable {α : Type} (k : Connective)

def join : Connective → Condition α → Condition α → Condition α
  | and => .and
  | or => .or

def holds : Connective → List Bool → Bool
  | and, bs => bs.all id
  | or, bs => bs.any id

def level : Connective → Level
  | and => .conjunction
  | or => .disjunction

def chain (c : Condition α) (cs : List (Condition α)) : Condition α := cs.foldl k.join c

variable {k} {c l r : Condition α}

private theorem eval_join (v : α → Bool) :
    (k.join l r).eval v = k.holds [l.eval v, r.eval v] := by
  cases k <;> simp [join, holds, eval]

private theorem atoms_join : (k.join l r).atoms = l.atoms ++ r.atoms := by
  cases k
  · exact atoms_and l r
  · exact atoms_or l r

private theorem delimited_join (hl : Delimited k.level l) (hr : Delimited k.level r) :
    Delimited k.level (k.join l r) := by
  cases k
  · exact .and hl hr
  · exact .or hl hr

theorem holds_singleton (b : Bool) : k.holds [b] = b := by
  cases k <;> simp [holds]

theorem holds_assoc (a b : Bool) (bs : List Bool) :
    k.holds (k.holds [a, b] :: bs) = k.holds (a :: b :: bs) := by
  cases k <;> simp [holds, Bool.and_assoc, Bool.or_assoc]

theorem atoms_chain (c : Condition α) (cs : List (Condition α)) :
    (k.chain c cs).atoms = (c :: cs).flatMap atoms := by
  induction cs generalizing c with
  | nil => simp [chain]
  | cons d ds ih =>
    have hstep : k.chain c (d :: ds) = k.chain (k.join c d) ds := rfl
    rw [hstep, ih, List.flatMap_cons, atoms_join, List.append_assoc]
    rfl

theorem eval_chain (v : α → Bool) (c : Condition α) (cs : List (Condition α)) :
    (k.chain c cs).eval v = k.holds ((c :: cs).map (eval v)) := by
  induction cs generalizing c with
  | nil => exact (holds_singleton _).symm
  | cons d ds ih =>
    have hstep : k.chain c (d :: ds) = k.chain (k.join c d) ds := rfl
    rw [hstep, ih, List.map_cons, eval_join, holds_assoc]
    rfl

theorem delimited_chain {cs : List (Condition α)} (hc : Delimited k.level c)
    (hcs : ∀ d ∈ cs, Delimited k.level d) : Delimited k.level (k.chain c cs) := by
  induction cs generalizing c with
  | nil => exact hc
  | cons d ds ih =>
    obtain ⟨hd, hds⟩ := List.forall_mem_cons.mp hcs
    exact ih (delimited_join hc hd) hds

end Connective

namespace Condition

variable {α : Type} {c : Condition α}

def joined (c : Condition α) (cs : List (Condition α)) : Condition α := cs.foldl and c

theorem atoms_joined (c : Condition α) (cs : List (Condition α)) :
    (c.joined cs).atoms = (c :: cs).flatMap atoms :=
  Connective.atoms_chain (k := .and) c cs

theorem eval_joined (v : α → Bool) (c : Condition α) (cs : List (Condition α)) :
    (c.joined cs).eval v = (c :: cs).all (eval v) :=
  (Connective.eval_chain (k := .and) v c cs).trans List.all_map

theorem delimited_joined {cs : List (Condition α)} (hc : Delimited .conjunction c)
    (hcs : ∀ d ∈ cs, Delimited .conjunction d) : Delimited .conjunction (c.joined cs) :=
  Connective.delimited_chain (k := .and) hc hcs

end Condition

end QueryTree
