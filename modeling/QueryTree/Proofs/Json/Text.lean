import QueryTree.Json.Printer
import QueryTree.Json.Reader
import QueryTree.Proofs.Json.Number
import QueryTree.Proofs.Json.Quoted

/-!
# What is written reads back

The reader gives the value that was written if no containers are nested deeper than it allows, and
nothing otherwise. Compact and indented text differ in their blanks alone, so both are a text with
blanks of some kind, and for that the two sides of this are one equation, proved by induction on the
value. The rest of the items of an array, after one of them, is a text of its own, and so is the rest
of the members of an object; with these the induction has no special case for what is empty.
-/
namespace QueryTree.JsonTree

def depth : {p : JsonPart} → JsonTree p → Nat
  | _, .array items => items.depth + 1
  | _, .object ms => ms.depth + 1
  | _, .cons x xs => max x.depth xs.depth
  | _, .member _ x rest => max x.depth rest.depth
  | _, .null | _, .bool _ | _, .number _ | _, .string _ | _, .nil | _, .empty => 0

def numbers : {p : JsonPart} → JsonTree p → List Number
  | _, .number n => [n]
  | _, .array items => items.numbers
  | _, .object ms => ms.numbers
  | _, .cons x xs => x.numbers ++ xs.numbers
  | _, .member _ x rest => x.numbers ++ rest.numbers
  | _, .null | _, .bool _ | _, .string _ | _, .nil | _, .empty => []

/-- The blanks in a text: before each part of a container and before its closing bracket, at any
depth, and before the value of a member. -/
structure Spacing where
  line : Nat → List Char
  gap : List Char
  line_blank : ∀ level, ∀ c ∈ line level, isSpace c = true
  gap_blank : ∀ c ∈ gap, isSpace c = true

def Spacing.none : Spacing where
  line _ := []
  gap := []
  line_blank := nofun
  gap_blank := nofun

def Spacing.lines : Spacing where
  line := newLine
  gap := [' ']
  line_blank level := by simp [newLine, isSpace]
  gap_blank := by simp [isSpace]

def Spacing.enclose (w : Spacing) (opening closing : Char) (inside : List Char) (level : Nat) :
    List Char :=
  if inside.isEmpty then [opening, closing]
  else opening :: (inside.drop 1 ++ w.line level ++ [closing])

/-- The text with the blanks of a spacing, for a container at a given depth. -/
def spaced (w : Spacing) : {p : JsonPart} → JsonTree p → Nat → List Char
  | _, .null, _ => "null".toList
  | _, .bool b, _ => (if b then "true" else "false").toList
  | _, .number n, _ => n.text
  | _, .string s, _ => Quoted.write s.toList
  | _, .array items, level => w.enclose '[' ']' (items.spaced w level) level
  | _, .object ms, level => w.enclose '\x7b' '\x7d' (ms.spaced w level) level
  | _, .nil, _ => []
  | _, .cons x xs, level =>
    ',' :: (w.line (level + 1) ++ (x.spaced w (level + 1) ++ xs.spaced w level))
  | _, .empty, _ => []
  | _, .member k x rest, level =>
    ',' :: (w.line (level + 1) ++ (Quoted.write k.toList ++ ':' :: (w.gap ++
      (x.spaced w (level + 1) ++ rest.spaced w level))))

theorem indented_eq {p : JsonPart} (x : JsonTree p) (level : Nat) :
    x.indented level = x.spaced .lines level := by
  induction x generalizing level with
  | null | bool | number | string | nil | empty => rfl
  | array items ih => exact congrArg (fun cs => JsonTree.enclose '[' ']' cs level) (ih level)
  | object ms ih => exact congrArg (fun cs => JsonTree.enclose '\x7b' '\x7d' cs level) (ih level)
  | cons x xs ihx ihxs => simp [indented, spaced, Spacing.lines, ihx, ihxs]
  | member k x rest ihx ihrest => simp [indented, spaced, Spacing.lines, ihx, ihrest]

private theorem enclose_none (opening closing : Char) (inside : List Char) (level : Nat) :
    Spacing.none.enclose opening closing inside level = opening :: (inside.drop 1 ++ [closing]) := by
  cases inside <;> simp [Spacing.enclose, Spacing.none]

theorem compact_eq {p : JsonPart} (x : JsonTree p) (level : Nat) :
    x.compact = x.spaced .none level := by
  induction x generalizing level with
  | null | bool | number | string | nil | empty => rfl
  | array items ih => rw [compact, spaced, enclose_none, ih level]
  | object ms ih => rw [compact, spaced, enclose_none, ih level]
  | cons x xs ihx ihxs => simp [compact, spaced, Spacing.none, ihx (level + 1), ihxs level]
  | member k x rest ihx ihrest =>
    simp [compact, spaced, Spacing.none, ihx (level + 1), ihrest level]

theorem skipSpace_cons {c : Char} (hc : isSpace c = false) (cs : List Char) :
    skipSpace (c :: cs) = c :: cs :=
  List.dropWhile_cons_of_neg (by simp [hc])

theorem skipSpace_append {bs : List Char} (hbs : ∀ c ∈ bs, isSpace c = true) (cs : List Char) :
    skipSpace (bs ++ cs) = skipSpace cs :=
  List.dropWhile_append_of_pos hbs

private theorem skipSpace_skipSpace (cs : List Char) : skipSpace (skipSpace cs) = skipSpace cs := by
  induction cs with
  | nil => rfl
  | cons c cs ih =>
    by_cases hc : isSpace c = true
    · have hskip : skipSpace (c :: cs) = skipSpace cs := List.dropWhile_cons_of_pos hc
      rw [hskip, ih]
    · have hc := Bool.eq_false_iff.mpr hc
      rw [skipSpace_cons hc, skipSpace_cons hc]

def readItemsLeft (fuel depth : Nat) (cs : List Char) : Option (JsonItems × List Char) :=
  match skipSpace cs with
  | ',' :: rest => readPart fuel .items depth rest
  | ']' :: rest => some (.nil, rest)
  | _ => none

def readMembersLeft (fuel depth : Nat) (cs : List Char) : Option (JsonMembers × List Char) :=
  match skipSpace cs with
  | ',' :: rest => readPart fuel .members depth rest
  | '\x7d' :: rest => some (.empty, rest)
  | _ => none

theorem readPart_items (fuel depth : Nat) (cs : List Char) :
    readPart (fuel + 1) .items depth cs =
      (readPart fuel .value depth cs).bind fun (x, rest) =>
        (readItemsLeft fuel depth rest).map fun (xs, rest) => (.cons x xs, rest) := by
  refine congrArg (Option.bind _) (funext fun ⟨x, rest⟩ => ?_)
  simp only [readItemsLeft]
  split <;> simp_all

theorem readPart_skipSpace (fuel : Nat) (p : JsonPart) (depth : Nat) (cs : List Char) :
    readPart fuel p depth (skipSpace cs) = readPart fuel p depth cs := by
  induction fuel generalizing p depth cs with
  | zero => rfl
  | succ fuel ih =>
    cases p with
    | items => rw [readPart_items, readPart_items, ih]
    | value | members => rw [readPart, readPart, skipSpace_skipSpace]

theorem readPart_append {bs : List Char} (hbs : ∀ c ∈ bs, isSpace c = true) (fuel : Nat)
    (p : JsonPart) (depth : Nat) (cs : List Char) :
    readPart fuel p depth (bs ++ cs) = readPart fuel p depth cs := by
  rw [← readPart_skipSpace, skipSpace_append hbs, readPart_skipSpace]

private theorem readPart_members (fuel depth : Nat) (k : String) (cs : List Char) :
    readPart (fuel + 1) .members depth (Quoted.write k.toList ++ ':' :: cs) =
      (readPart fuel .value depth cs).bind fun (x, rest) =>
        (readMembersLeft fuel depth rest).map fun (ms, rest) => (.member k x ms, rest) := by
  have hkey : Quoted.write k.toList ++ ':' :: cs =
      '"' :: (k.toList.flatMap Quoted.escape ++ '"' :: ':' :: cs) := by simp [Quoted.write]
  rw [hkey]
  show Option.bind (Quoted.read? _) _ = _
  rw [Quoted.read?_escape]
  show (readPart fuel .value depth cs).bind _ = _
  refine congrArg (Option.bind _) (funext fun ⟨x, rest⟩ => ?_)
  simp only [readMembersLeft]
  split <;> simp_all

private theorem readPart_string (fuel depth : Nat) (s : String) (cs : List Char) :
    readPart (fuel + 1) .value depth (Quoted.write s.toList ++ cs) = some (.string s, cs) := by
  have htext : Quoted.write s.toList ++ cs =
      '"' :: (s.toList.flatMap Quoted.escape ++ '"' :: cs) := by simp [Quoted.write]
  rw [htext]
  show Option.map _ (Quoted.read? _) = _
  rw [Quoted.read?_escape]
  rfl

/-- A number starts with a character with which nothing else starts. -/
theorem head_number {n : Number} (hn : n.ReadsBack) :
    ∃ c cs, n.text = c :: cs ∧ ∀ d, d ≠ '-' → d.isDigit = false → c ≠ d := by
  match htext : n.text with
  | [] =>
    rw [Number.ReadsBack, htext] at hn
    exact absurd hn (by simp [Number.read?, Number.spelling?, Number.whole?, Number.digits?])
  | c :: cs =>
    refine ⟨c, cs, rfl, ?_⟩
    rintro d hminus hdigit rfl
    have hread : Number.read? (c :: cs) = some (n, []) := htext ▸ hn
    simpa [hminus, hdigit] using Number.head_of_read? hread

private theorem readPart_number (fuel depth : Nat) {n : Number} (hn : n.ReadsBack)
    {rest : List Char} (hrest : Number.Ends rest) :
    readPart (fuel + 1) .value depth (n.text ++ rest) = some (.number n, rest) := by
  have hread := hn.read?_append hrest
  obtain ⟨c, cs, htext, hne⟩ := head_number hn
  have hspace : isSpace c = false := by
    simp [isSpace, hne]
  rw [htext, List.cons_append] at hread ⊢
  rw [readPart, skipSpace_cons hspace]
  split <;> simp_all

private theorem readPart_bracket (fuel depth : Nat) {c : Char} {cs rest : List Char}
    (hcs : skipSpace cs = c :: rest) (hc : c ≠ ']') :
    readPart (fuel + 1) .value (depth + 1) ('[' :: cs) =
      (readPart fuel .items depth cs).map fun (xs, rest) => (.array xs, rest) := by
  rw [← readPart_skipSpace fuel .items depth cs, hcs, readPart, skipSpace_cons rfl]
  simp only [hcs]
  split
  · exact absurd (List.cons.inj ‹_›).1 hc
  · rfl

private theorem readPart_brace (fuel depth : Nat) {c : Char} {cs rest : List Char}
    (hcs : skipSpace cs = c :: rest) (hc : c ≠ '\x7d') :
    readPart (fuel + 1) .value (depth + 1) ('\x7b' :: cs) =
      (readPart fuel .members depth cs).map fun (ms, rest) => (.object ms, rest) := by
  rw [← readPart_skipSpace fuel .members depth cs, hcs, readPart, skipSpace_cons rfl]
  simp only [hcs]
  split
  · exact absurd (List.cons.inj ‹_›).1 hc
  · rfl

theorem bind_if {α β : Type} {a b : Prop} [Decidable a] [Decidable b] {x : α} {y : β}
    {f : α → Option β} (hf : f x = if b then some y else none) :
    (if a then some x else none).bind f = if a ∧ b then some y else none := by
  by_cases a <;> simp_all

theorem map_if {α β : Type} {a : Prop} [Decidable a] {x : α} (f : α → β) :
    (if a then some x else none).map f = if a then some (f x) else none := by
  split <;> rfl

variable {w : Spacing}

/-- Nothing that is written for a value starts with a blank or a closing bracket. -/
private theorem head_spaced {x : Json} (hx : ∀ n ∈ x.numbers, n.ReadsBack) (level : Nat) :
    ∃ c cs, x.spaced w level = c :: cs ∧ isSpace c = false ∧ c ≠ ']' := by
  cases x with
  | null => exact ⟨_, _, rfl, rfl, by decide⟩
  | bool b => cases b <;> exact ⟨_, _, rfl, rfl, by decide⟩
  | number n =>
    obtain ⟨c, cs, htext, hne⟩ := head_number (hx n (List.mem_singleton.mpr rfl))
    exact ⟨c, cs, htext, by simp [isSpace, hne], hne _ (by decide) (by decide)⟩
  | string s => exact ⟨_, _, rfl, rfl, by decide⟩
  | array items => cases items <;> exact ⟨_, _, rfl, rfl, by decide⟩
  | object ms => cases ms <;> exact ⟨_, _, rfl, rfl, by decide⟩

private theorem spaced_cons (x : Json) (xs : JsonItems) (level : Nat) (cs : List Char) :
    (cons x xs).spaced w level ++ cs =
      ',' :: (w.line (level + 1) ++ (x.spaced w (level + 1) ++ (xs.spaced w level ++ cs))) := by
  simp only [spaced, List.append_assoc, List.cons_append]

private theorem spaced_member (k : String) (x : Json) (ms : JsonMembers) (level : Nat)
    (cs : List Char) :
    (member k x ms).spaced w level ++ cs =
      ',' :: (w.line (level + 1) ++ (Quoted.write k.toList ++ ':' :: (w.gap ++
        (x.spaced w (level + 1) ++ (ms.spaced w level ++ cs))))) := by
  simp only [spaced, List.append_assoc, List.cons_append]

/-- A container that is not empty has all its parts between brackets. -/
theorem enclose_cons (opening closing c : Char) (inside : List Char) (level : Nat)
    (cs : List Char) :
    w.enclose opening closing (c :: inside) level ++ cs =
      opening :: (inside ++ (w.line level ++ closing :: cs)) := by
  simp [Spacing.enclose]

theorem readItemsLeft_nil (fuel depth level : Nat) (cs : List Char) :
    readItemsLeft fuel depth (w.line level ++ ']' :: cs) = some (.nil, cs) := by
  rw [readItemsLeft, skipSpace_append (w.line_blank level)]
  rfl

theorem readItemsLeft_cons (fuel depth level : Nat) (x : Json) (xs : JsonItems)
    (cs : List Char) :
    readItemsLeft fuel depth ((cons x xs).spaced w level ++ cs) =
      readPart fuel .items depth (x.spaced w (level + 1) ++ (xs.spaced w level ++ cs)) := by
  rw [spaced_cons, readItemsLeft, skipSpace_cons (by decide)]
  exact readPart_append (w.line_blank _) _ _ _ _

theorem readMembersLeft_empty (fuel depth level : Nat) (cs : List Char) :
    readMembersLeft fuel depth (w.line level ++ '\x7d' :: cs) = some (.empty, cs) := by
  rw [readMembersLeft, skipSpace_append (w.line_blank level)]
  rfl

theorem readMembersLeft_member (fuel depth level : Nat) (k : String) (x : Json)
    (ms : JsonMembers) (cs : List Char) :
    readMembersLeft fuel depth ((member k x ms).spaced w level ++ cs) =
      readPart fuel .members depth (Quoted.write k.toList ++ ':' :: (w.gap ++
        (x.spaced w (level + 1) ++ (ms.spaced w level ++ cs)))) := by
  rw [spaced_member, readMembersLeft, skipSpace_cons (by decide)]
  exact readPart_append (w.line_blank _) _ _ _ _

private theorem readPart_array (fuel depth level : Nat) {xs : JsonItems}
    (hxs : ∀ n ∈ xs.numbers, n.ReadsBack) (cs : List Char) :
    readPart (fuel + 1) .value (depth + 1) ((array xs).spaced w level ++ cs) =
      (readItemsLeft fuel depth (xs.spaced w level ++ (w.line level ++ ']' :: cs))).map
        fun (xs, rest) => (.array xs, rest) := by
  cases xs with
  | nil =>
    show some (array nil, cs) = (readItemsLeft fuel depth (w.line level ++ ']' :: cs)).map _
    rw [readItemsLeft_nil]
    rfl
  | cons x xs =>
    obtain ⟨c, text, htext, hspace, hc⟩ :=
      head_spaced (fun n hn => hxs n (List.mem_append_left _ hn)) (level + 1)
    have hskip (rest : List Char) : skipSpace (w.line (level + 1) ++
        (x.spaced w (level + 1) ++ rest)) = c :: (text ++ rest) := by
      rw [skipSpace_append (w.line_blank _), htext]
      exact skipSpace_cons hspace _
    have harray : (array (cons x xs)).spaced w level ++ cs = '[' :: (w.line (level + 1) ++
        (x.spaced w (level + 1) ++ (xs.spaced w level ++ (w.line level ++ ']' :: cs)))) := by
      refine (enclose_cons '[' ']' ',' _ level cs).trans ?_
      simp only [List.append_assoc]
    rw [harray, readItemsLeft_cons, readPart_bracket fuel depth (hskip _) hc,
      readPart_append (w.line_blank _)]

private theorem readPart_object (fuel depth level : Nat) (ms : JsonMembers) (cs : List Char) :
    readPart (fuel + 1) .value (depth + 1) ((object ms).spaced w level ++ cs) =
      (readMembersLeft fuel depth (ms.spaced w level ++ (w.line level ++ '\x7d' :: cs))).map
        fun (ms, rest) => (.object ms, rest) := by
  cases ms with
  | empty =>
    show some (object empty, cs) = (readMembersLeft fuel depth (w.line level ++ '\x7d' :: cs)).map _
    rw [readMembersLeft_empty]
    rfl
  | member k x ms =>
    have hskip (rest : List Char) :
        skipSpace (w.line (level + 1) ++ (Quoted.write k.toList ++ rest)) =
          '"' :: (k.toList.flatMap Quoted.escape ++ ['"'] ++ rest) :=
      skipSpace_append (w.line_blank _) _
    have hobject : (object (member k x ms)).spaced w level ++ cs = '\x7b' ::
        (w.line (level + 1) ++ (Quoted.write k.toList ++ ':' :: (w.gap ++ (x.spaced w (level + 1) ++
          (ms.spaced w level ++ (w.line level ++ '\x7d' :: cs)))))) := by
      refine (enclose_cons '\x7b' '\x7d' ',' _ level cs).trans ?_
      simp only [List.append_assoc, List.cons_append]
    rw [hobject, readMembersLeft_member, readPart_brace fuel depth (hskip _) (by decide),
      readPart_append (w.line_blank _)]

/-- What reading a part from its text gives. The reader takes two steps for an item, one for its
place and one for its value, and for each item there is at least a comma in the text; so twice the
length of the text is fuel enough. -/
def ReadsBack (w : Spacing) : {p : JsonPart} → JsonTree p → Prop
  | .value, x => ∀ fuel depth level rest, Number.Ends rest →
      2 * (x.spaced w level).length < fuel →
      readPart fuel .value depth (x.spaced w level ++ rest) =
        if x.depth ≤ depth then some (x, rest) else none
  | .items, xs => ∀ fuel depth level rest, 2 * (xs.spaced w level).length ≤ fuel →
      readItemsLeft fuel depth (xs.spaced w level ++ (w.line level ++ ']' :: rest)) =
        if xs.depth ≤ depth then some (xs, rest) else none
  | .members, ms => ∀ fuel depth level rest, 2 * (ms.spaced w level).length ≤ fuel →
      readMembersLeft fuel depth (ms.spaced w level ++ (w.line level ++ '\x7d' :: rest)) =
        if ms.depth ≤ depth then some (ms, rest) else none

theorem length_enclose (opening closing : Char) (inside : List Char) (level : Nat) :
    inside.length < (w.enclose opening closing inside level).length := by
  cases inside with
  | nil => simp [Spacing.enclose]
  | cons c cs =>
    simp only [Spacing.enclose, List.isEmpty_cons, Bool.false_eq_true, if_false, List.drop_one,
      List.tail_cons, List.length_cons, List.length_append]
    omega

private theorem length_cons (w : Spacing) (x : Json) (xs : JsonItems) (level : Nat) :
    (x.spaced w (level + 1)).length + (xs.spaced w level).length <
      ((cons x xs).spaced w level).length := by
  simp only [spaced, List.length_cons, List.length_append]
  omega

private theorem length_member (w : Spacing) (k : String) (x : Json) (ms : JsonMembers)
    (level : Nat) :
    (x.spaced w (level + 1)).length + (ms.spaced w level).length <
      ((member k x ms).spaced w level).length := by
  simp only [spaced, List.length_cons, List.length_append]
  omega

/-- A blank is no part of a number. -/
private theorem isPart_of_isSpace {c : Char} (hc : isSpace c = true) : Number.isPart c = false := by
  simp only [isSpace, Bool.or_eq_true, beq_iff_eq] at hc
  rcases hc with ((rfl | rfl) | rfl) | rfl <;> rfl

theorem ends_line (level : Nat) {c : Char} (hc : Number.isPart c = false) (cs : List Char) :
    Number.Ends (w.line level ++ c :: cs) := by
  intro d hd
  have hblank := w.line_blank level
  match hline : w.line level with
  | [] =>
    rw [hline] at hd
    exact Option.some.inj hd ▸ hc
  | b :: bs =>
    rw [hline] at hd hblank
    exact Option.some.inj hd ▸ isPart_of_isSpace (hblank b List.mem_cons_self)

private theorem ends_items (xs : JsonItems) (level : Nat) (cs : List Char) :
    Number.Ends (xs.spaced w level ++ (w.line level ++ ']' :: cs)) := by
  cases xs with
  | nil => exact ends_line level rfl cs
  | cons x xs => rintro c ⟨⟩; decide

private theorem ends_members (ms : JsonMembers) (level : Nat) (cs : List Char) :
    Number.Ends (ms.spaced w level ++ (w.line level ++ '\x7d' :: cs)) := by
  cases ms with
  | empty => exact ends_line level rfl cs
  | member k x ms => rintro c ⟨⟩; decide

/-- A value reads back if it is nested no deeper than the reader allows, and if its numbers do. -/
theorem readsBack (w : Spacing) {p : JsonPart} (t : JsonTree p)
    (ht : ∀ n ∈ t.numbers, n.ReadsBack) : t.ReadsBack w := by
  induction t with
  | null =>
    rintro (_ | fuel) depth level rest - hfuel
    · exact absurd hfuel (by omega)
    · rfl
  | bool b =>
    rintro (_ | fuel) depth level rest - hfuel
    · exact absurd hfuel (by omega)
    · cases b <;> rfl
  | number n =>
    rintro (_ | fuel) depth level rest hrest hfuel
    · exact absurd hfuel (by omega)
    · exact readPart_number fuel depth (ht n (List.mem_singleton.mpr rfl)) hrest
  | string s =>
    rintro (_ | fuel) depth level rest - hfuel
    · exact absurd hfuel (by omega)
    · exact readPart_string fuel depth s rest
  | array items ih =>
    rintro (_ | fuel) depth level rest - hfuel
    · exact absurd hfuel (by omega)
    have hlength : (items.spaced w level).length < ((array items).spaced w level).length :=
      length_enclose '[' ']' (items.spaced w level) level
    cases depth with
    | zero => cases items <;> rfl
    | succ depth =>
      rw [readPart_array fuel depth level ht, ih ht fuel depth level rest (by omega), map_if]
      simp only [JsonTree.depth, Nat.add_le_add_iff_right]
  | object ms ih =>
    rintro (_ | fuel) depth level rest - hfuel
    · exact absurd hfuel (by omega)
    have hlength : (ms.spaced w level).length < ((object ms).spaced w level).length :=
      length_enclose '\x7b' '\x7d' (ms.spaced w level) level
    cases depth with
    | zero => cases ms <;> rfl
    | succ depth =>
      rw [readPart_object fuel depth level, ih ht fuel depth level rest (by omega), map_if]
      simp only [JsonTree.depth, Nat.add_le_add_iff_right]
  | nil =>
    intro fuel depth level rest _
    exact readItemsLeft_nil fuel depth level rest
  | cons x xs ihx ihxs =>
    intro fuel depth level rest hfuel
    have hlength := length_cons w x xs level
    obtain ⟨fuel, rfl⟩ : ∃ left, fuel = left + 1 := ⟨fuel - 1, by omega⟩
    have hx : 2 * (x.spaced w (level + 1)).length < fuel := by omega
    have hxs : 2 * (xs.spaced w level).length ≤ fuel := by omega
    rw [readItemsLeft_cons]
    simp only [readPart_items, JsonTree.depth, Nat.max_le]
    rw [ihx (fun n hn => ht n (List.mem_append_left _ hn)) fuel depth (level + 1) _
      (ends_items xs level _) hx]
    refine bind_if ?_
    rw [ihxs (fun n hn => ht n (List.mem_append_right _ hn)) fuel depth level rest hxs, map_if]
  | empty =>
    intro fuel depth level rest _
    exact readMembersLeft_empty fuel depth level rest
  | member k x ms ihx ihms =>
    intro fuel depth level rest hfuel
    have hlength := length_member w k x ms level
    obtain ⟨fuel, rfl⟩ : ∃ left, fuel = left + 1 := ⟨fuel - 1, by omega⟩
    have hx : 2 * (x.spaced w (level + 1)).length < fuel := by omega
    have hms : 2 * (ms.spaced w level).length ≤ fuel := by omega
    rw [readMembersLeft_member]
    simp only [readPart_members, readPart_append w.gap_blank, JsonTree.depth, Nat.max_le]
    rw [ihx (fun n hn => ht n (List.mem_append_left _ hn)) fuel depth (level + 1) _
      (ends_members ms level _) hx]
    refine bind_if ?_
    rw [ihms (fun n hn => ht n (List.mem_append_right _ hn)) fuel depth level rest hms, map_if]

theorem read?_spaced (w : Spacing) (x : Json) (hx : ∀ n ∈ x.numbers, n.ReadsBack) (depth : Nat) :
    read? depth (String.ofList (x.spaced w 0)) = if x.depth ≤ depth then some x.sorted else none := by
  have hread := x.readsBack w hx (2 * (x.spaced w 0).length + 2) depth 0 [] nofun (by omega)
  rw [List.append_nil] at hread
  rw [read?, readOrdered?, String.toList_ofList, String.length_ofList, hread]
  by_cases hdepth : x.depth ≤ depth
  · simp [hdepth, skipSpace]
  · simp [hdepth]

/-- A reader that allows containers of a given depth reads the indented text of a value as that value
if the value keeps to it, and as nothing otherwise. -/
theorem read?_indentedText (x : Json) (hx : ∀ n ∈ x.numbers, n.ReadsBack) (depth : Nat) :
    read? depth x.indentedText = if x.depth ≤ depth then some x.sorted else none := by
  rw [indentedText, indented_eq]
  exact read?_spaced .lines x hx depth

/-- The same goes for compact text. -/
theorem read?_compactText (x : Json) (hx : ∀ n ∈ x.numbers, n.ReadsBack) (depth : Nat) :
    read? depth x.compactText = if x.depth ≤ depth then some x.sorted else none := by
  rw [compactText_eq, compact_eq x 0]
  exact read?_spaced .none x hx depth

end QueryTree.JsonTree
