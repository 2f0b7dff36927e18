import MixRounds.Proofs.Json.Tokens

/-!
# Compact JSON text reads back

The reader undoes the printer on every value that holds no floating-point number, whose whole numbers
fit 64 bits and that nests no deeper than the reader goes (`Legible`): **`parse?_compact`**.  So the
text determines the value (**`compact_injective`**), and so do its bytes
(**`toUTF8_compact_injective`**).

The reader is written with fuel.  Each unit of it pays for a character that is read, so the length of
a value's own text is always enough (`Reads`), and `parse?` has twice that.
-/

namespace MixRounds.Json

/-! ## Which values -/

/-- No floating-point numbers, whole numbers of 64 bits, arrays and objects at most `depth` deep. -/
inductive Legible : Nat → Json → Prop
  | null {depth : Nat} : Legible depth .null
  | bool {depth : Nat} (b : Bool) : Legible depth (.bool b)
  | int {depth : Nat} {i : Int} (hi : FitsWord i) : Legible depth (.int i)
  | str {depth : Nat} (s : String) : Legible depth (.str s)
  | arr {depth : Nat} {items : List Json} (hitems : ∀ item ∈ items, Legible depth item) :
      Legible (depth + 1) (.arr items)
  | obj {depth : Nat} {members : List (String × Json)}
      (hmembers : ∀ member ∈ members, Legible depth member.2) : Legible (depth + 1) (.obj members)

/-- The value is read from the head of any text that begins with its own. -/
def Reads (depth : Nat) (j : Json) : Prop :=
  ∀ fuel rest, Delimited rest → j.chars.length ≤ fuel →
    value? fuel depth (j.chars ++ rest) = some (j, rest)

/-! ## The head of a text -/

lemma skipBlanks_cons {c : Char} (hc : isBlank c = false) (cs : List Char) :
    skipBlanks (c :: cs) = c :: cs := by simp [skipBlanks, hc]

/-- A value begins with a character that is neither blank nor a closing bracket. -/
lemma Legible.head {depth : Nat} {j : Json} (h : Legible depth j) :
    ∃ c more, j.chars = c :: more ∧ isBlank c = false ∧ c ≠ ']' ∧ c ≠ '\x7d' := by
  cases h with
  | null => exact ⟨_, _, rfl, by decide⟩
  | bool b => cases b <;> exact ⟨_, _, rfl, by decide⟩
  | @int _ i hi =>
      cases i with
      | ofNat n =>
          obtain ⟨c, more, hhead, hc, -⟩ := toDigits_head n
          refine ⟨c, more, hhead, ?_, ?_, ?_⟩
          · by_contra hblank
            simp only [isBlank, Bool.not_eq_false, Bool.or_eq_true, beq_iff_eq] at hblank
            rcases hblank with ((rfl | rfl) | rfl) | rfl <;> exact absurd hc (by decide)
          · rintro rfl; exact absurd hc (by decide)
          · rintro rfl; exact absurd hc (by decide)
      | negSucc n => exact ⟨_, _, rfl, by decide⟩
  | str s => exact ⟨_, _, rfl, by decide⟩
  | arr _ => exact ⟨_, _, rfl, by decide⟩
  | obj _ => exact ⟨_, _, rfl, by decide⟩

/-- What begins with a digit or a minus is read as a number. -/
lemma value?_number {c : Char} (hc : c.isDigit ∨ c = '-') (fuel depth : Nat) (cs : List Char) :
    value? (fuel + 1) depth (c :: cs) = number? (c :: cs) := by
  have hplain : isBlank c = false := by
    by_contra hblank
    simp only [isBlank, Bool.not_eq_false, Bool.or_eq_true, beq_iff_eq] at hblank
    rcases hblank with ((rfl | rfl) | rfl) | rfl <;> exact absurd hc (by decide)
  rw [value?, skipBlanks_cons hplain]
  split
  case h_1 h => exact absurd h (List.cons_ne_nil _ _)
  case h_8 => rfl
  all_goals
    rename_i h
    rw [(List.cons.inj h).1] at hc
    exact absurd hc (by decide)

/-- A name between its quotes. -/
lemma stringBody?_stringChars (s : String) (rest : List Char) :
    stringBody? ((s.toList.flatMap escapedChar ++ '"' :: rest).length + 1)
      (s.toList.flatMap escapedChar ++ '"' :: rest) = some (s.toList, rest) :=
  stringBody?_escaped _ _ _ (by rw [List.length_append]; omega)

/-! ## Items and members -/

lemma commaJoin_cons (piece next : List Char) (more : List (List Char)) :
    commaJoin (piece :: next :: more) = piece ++ ',' :: commaJoin (next :: more) := rfl

lemma delimited_comma (cs : List Char) : Delimited (',' :: cs) := Or.inl rfl

lemma delimited_bracket (cs : List Char) : Delimited (']' :: cs) := Or.inr (Or.inl rfl)

lemma delimited_brace (cs : List Char) : Delimited ('\x7d' :: cs) := Or.inr (Or.inr rfl)

/-- Items are read one by one up to the bracket. -/
lemma items?_chars {depth : Nat} (item : Json) (items : List Json)
    (hreads : ∀ j ∈ item :: items, Reads depth j) (rest : List Char) :
    ∀ fuel, (commaJoin (itemChars (item :: items))).length < fuel →
      items? fuel depth (commaJoin (itemChars (item :: items)) ++ ']' :: rest) =
        some (item :: items, rest) := by
  induction items generalizing item with
  | nil =>
      intro fuel hfuel
      obtain ⟨fuel, rfl⟩ : ∃ k, fuel = k + 1 := ⟨fuel - 1, by omega⟩
      have hitem := hreads item List.mem_cons_self fuel (']' :: rest) (delimited_bracket rest)
        (Nat.le_of_lt_succ hfuel)
      simp only [itemChars, commaJoin] at hitem ⊢
      simp [items?, hitem, skipBlanks_cons (c := ']') rfl]
  | cons next items ih =>
      intro fuel hfuel
      obtain ⟨fuel, rfl⟩ : ∃ k, fuel = k + 1 := ⟨fuel - 1, by omega⟩
      rw [itemChars, itemChars, commaJoin_cons, ← itemChars, List.length_append,
        List.length_cons] at hfuel
      have hitem := hreads item List.mem_cons_self fuel
        (',' :: (commaJoin (itemChars (next :: items)) ++ ']' :: rest)) (delimited_comma _) (by omega)
      have hrest := ih next (fun j hj => hreads j (List.mem_cons_of_mem item hj)) fuel (by omega)
      rw [itemChars, itemChars, commaJoin_cons, ← itemChars, List.append_assoc, List.cons_append]
      simp [items?, hitem, skipBlanks_cons (c := ',') rfl, hrest]

lemma memberChars_append (name : String) (value : Json) (rest : List Char) :
    memberChars (name, value) ++ rest = '"' :: (name.toList.flatMap escapedChar ++
      '"' :: ':' :: (value.chars ++ rest)) := by simp [memberChars, stringChars]

lemma members?_comma {depth fuel : Nat} {member : String × Json} (hreads : Reads depth member.2)
    (hfuel : member.2.chars.length ≤ fuel) (rest : List Char) :
    members? (fuel + 1) depth (memberChars member ++ ',' :: rest) =
      (members? fuel depth rest).map fun r => (member :: r.1, r.2) := by
  obtain ⟨name, value⟩ := member
  have hvalue := hreads fuel (',' :: rest) (delimited_comma rest) hfuel
  have hname := stringBody?_stringChars name (':' :: (value.chars ++ ',' :: rest))
  rw [memberChars_append, members?, skipBlanks_cons (c := '"') rfl]
  simp only [hname, Option.bind_eq_bind, Option.bind_some, skipBlanks_cons (c := ':') rfl, hvalue,
    skipBlanks_cons (c := ',') rfl, String.ofList_toList]
  cases members? fuel depth rest <;> rfl

lemma members?_brace {depth fuel : Nat} {member : String × Json} (hreads : Reads depth member.2)
    (hfuel : member.2.chars.length ≤ fuel) (rest : List Char) :
    members? (fuel + 1) depth (memberChars member ++ '\x7d' :: rest) = some ([member], rest) := by
  obtain ⟨name, value⟩ := member
  have hvalue := hreads fuel ('\x7d' :: rest) (delimited_brace rest) hfuel
  have hname := stringBody?_stringChars name (':' :: (value.chars ++ '\x7d' :: rest))
  rw [memberChars_append, members?, skipBlanks_cons (c := '"') rfl]
  simp only [hname, Option.bind_eq_bind, Option.bind_some, skipBlanks_cons (c := ':') rfl, hvalue,
    skipBlanks_cons (c := '\x7d') rfl, String.ofList_toList, Option.pure_def]

lemma length_le_memberChars (m : String × Json) : m.2.chars.length ≤ (memberChars m).length := by
  obtain ⟨name, value⟩ := m
  simp only [memberChars, List.length_append, List.length_cons]
  omega

/-- Members are read one by one up to the brace. -/
lemma members?_chars {depth : Nat} (member : String × Json) (members : List (String × Json))
    (hreads : ∀ m ∈ member :: members, Reads depth m.2) (rest : List Char) :
    ∀ fuel, (commaJoin (membersChars (member :: members))).length < fuel →
      members? fuel depth (commaJoin (membersChars (member :: members)) ++ '\x7d' :: rest) =
        some (member :: members, rest) := by
  induction members generalizing member with
  | nil =>
      intro fuel hfuel
      obtain ⟨fuel, rfl⟩ : ∃ k, fuel = k + 1 := ⟨fuel - 1, by omega⟩
      simp only [membersChars, commaJoin] at hfuel ⊢
      have := length_le_memberChars member
      exact members?_brace (hreads member List.mem_cons_self) (by omega) rest
  | cons next members ih =>
      intro fuel hfuel
      obtain ⟨fuel, rfl⟩ : ∃ k, fuel = k + 1 := ⟨fuel - 1, by omega⟩
      rw [membersChars, membersChars, commaJoin_cons, ← membersChars, List.length_append,
        List.length_cons] at hfuel
      have := length_le_memberChars member
      have hrest := ih next (fun m hm => hreads m (List.mem_cons_of_mem member hm)) fuel (by omega)
      rw [membersChars, membersChars, commaJoin_cons, ← membersChars, List.append_assoc,
        List.cons_append, members?_comma (hreads member List.mem_cons_self) (by omega), hrest]
      rfl

/-! ## Values -/

lemma reads_arr {depth : Nat} {items : List Json} (hlegible : ∀ item ∈ items, Legible depth item)
    (hreads : ∀ item ∈ items, Reads depth item) : Reads (depth + 1) (.arr items) := by
  intro fuel rest hrest hfuel
  rw [chars, List.length_cons, List.length_append, List.length_singleton] at hfuel
  obtain ⟨fuel, rfl⟩ : ∃ k, fuel = k + 1 := ⟨fuel - 1, by omega⟩
  rw [chars, List.cons_append, List.append_assoc, List.singleton_append, value?,
    skipBlanks_cons (c := '[') rfl]
  cases items with
  | nil => simp [itemChars, commaJoin, skipBlanks_cons (c := ']') rfl]
  | cons item items =>
      have hread := items?_chars item items hreads rest fuel (by omega)
      obtain ⟨c, more, hhead, hblank, hbracket, -⟩ := (hlegible item List.mem_cons_self).head
      obtain ⟨tail, htail⟩ : ∃ tail, commaJoin (itemChars (item :: items)) = c :: tail := by
        cases items with
        | nil => exact ⟨more, by simp [itemChars, commaJoin, hhead]⟩
        | cons next items =>
            exact ⟨more ++ ',' :: commaJoin (itemChars (next :: items)), by
              rw [itemChars, itemChars, commaJoin_cons, ← itemChars, hhead, List.cons_append]⟩
      rw [htail, List.cons_append] at hread ⊢
      simp [skipBlanks_cons hblank, hbracket, hread]

lemma reads_obj {depth : Nat} {members : List (String × Json)}
    (hreads : ∀ member ∈ members, Reads depth member.2) : Reads (depth + 1) (.obj members) := by
  intro fuel rest hrest hfuel
  rw [chars, List.length_cons, List.length_append, List.length_singleton] at hfuel
  obtain ⟨fuel, rfl⟩ : ∃ k, fuel = k + 1 := ⟨fuel - 1, by omega⟩
  rw [chars, List.cons_append, List.append_assoc, List.singleton_append, value?,
    skipBlanks_cons (c := '\x7b') rfl]
  cases members with
  | nil => simp [membersChars, commaJoin, skipBlanks_cons (c := '\x7d') rfl]
  | cons member members =>
      have hread := members?_chars member members hreads rest fuel (by omega)
      obtain ⟨tail, htail⟩ : ∃ tail, commaJoin (membersChars (member :: members)) = '"' :: tail := by
        obtain ⟨name, value⟩ := member
        cases members with
        | nil => exact ⟨_, rfl⟩
        | cons next members => exact ⟨_, rfl⟩
      rw [htail, List.cons_append] at hread ⊢
      simp [skipBlanks_cons (c := '"') rfl, hread]

/-- **A legible value is read from its own text.** -/
theorem Legible.reads {depth : Nat} {j : Json} (h : Legible depth j) : Reads depth j := by
  induction h with
  | null =>
      intro fuel rest _ hfuel
      obtain ⟨fuel, rfl⟩ : ∃ k, fuel = k + 1 := ⟨fuel - 1, by simp [chars] at hfuel; omega⟩
      simp [chars, value?, skipBlanks_cons (c := 'n') rfl, afterWord?]
  | bool b =>
      intro fuel rest _ hfuel
      obtain ⟨fuel, rfl⟩ : ∃ k, fuel = k + 1 :=
        ⟨fuel - 1, by cases b <;> simp [chars] at hfuel <;> omega⟩
      cases b with
      | true => simp [chars, value?, skipBlanks_cons (c := 't') rfl, afterWord?]
      | false => simp [chars, value?, skipBlanks_cons (c := 'f') rfl, afterWord?]
  | @int depth i hi =>
      intro fuel rest hrest hfuel
      have hread := number?_intChars hrest hi
      obtain ⟨c, more, hhead, hc⟩ : ∃ c more, intChars i = c :: more ∧ (c.isDigit ∨ c = '-') := by
        cases i with
        | ofNat n =>
            obtain ⟨c, more, hhead, hc, -⟩ := toDigits_head n
            exact ⟨c, more, hhead, Or.inl hc⟩
        | negSucc n => exact ⟨_, _, rfl, Or.inr rfl⟩
      rw [chars, hhead] at hfuel ⊢
      rw [hhead, List.cons_append] at hread
      obtain ⟨fuel, rfl⟩ : ∃ k, fuel = k + 1 := ⟨fuel - 1, by simp at hfuel; omega⟩
      rw [List.cons_append, value?_number hc, hread]
  | str s =>
      intro fuel rest _ hfuel
      rw [chars, stringChars, List.length_cons] at hfuel
      obtain ⟨fuel, rfl⟩ : ∃ k, fuel = k + 1 := ⟨fuel - 1, by omega⟩
      have hbody := stringBody?_stringChars s rest
      rw [chars, stringChars, List.cons_append, List.append_assoc, List.singleton_append, value?,
        skipBlanks_cons (c := '"') rfl]
      simp only [hbody, Option.bind_eq_bind, Option.bind_some, String.ofList_toList,
        Option.pure_def]
  | arr hitems ih => exact reads_arr hitems ih
  | obj _ ih => exact reads_obj ih

/-- **The compact text of a value reads back to the value.** -/
theorem parse?_compact {j : Json} (h : Legible depthLimit j) : parse? j.compact = some j := by
  have hread := h.reads (2 * j.chars.length + 2) [] trivial (by omega)
  rw [List.append_nil] at hread
  simp only [parse?, compact, String.toList_ofList, hread, Option.bind_eq_bind, Option.bind_some]
  rfl

/-- Values with one text are one value. -/
theorem compact_injective {i j : Json} (hi : Legible depthLimit i) (hj : Legible depthLimit j)
    (h : i.compact = j.compact) : i = j :=
  Option.some.inj (by rw [← parse?_compact hi, h, parse?_compact hj])

/-! ## Bytes -/

lemma toList_loop (bytes : ByteArray) (i : Nat) (read : List UInt8) :
    ByteArray.toList.loop bytes i read = read.reverse ++ bytes.data.toList.drop i := by
  fun_induction ByteArray.toList.loop bytes i read with
  | case1 i read hi ih =>
      have hlt : i < bytes.data.toList.length := by simpa using hi
      have hget : bytes.get! i = bytes.data.toList[i] := by
        simp [ByteArray.get!, hi]
      rw [ih, List.drop_eq_getElem_cons hlt, hget]
      simp
  | case2 i read hi =>
      have hle : bytes.data.toList.length ≤ i := by simpa using hi
      rw [List.drop_of_length_le hle, List.append_nil]

lemma toList_injective {s t : String} (h : s.toUTF8.toList = t.toUTF8.toList) : s = t := by
  simp only [ByteArray.toList, toList_loop, List.reverse_nil, List.nil_append, List.drop_zero,
    Array.toList_inj] at h
  exact String.toByteArray_inj.1 (ByteArray.ext h)

/-- Values whose texts have the same bytes are one value. -/
theorem toUTF8_compact_injective {i j : Json} (hi : Legible depthLimit i)
    (hj : Legible depthLimit j) (h : i.compact.toUTF8.toList = j.compact.toUTF8.toList) : i = j :=
  compact_injective hi hj (toList_injective h)

end MixRounds.Json
