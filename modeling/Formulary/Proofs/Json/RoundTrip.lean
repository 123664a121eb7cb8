/-
  Values that are written are read back.

  A value is read as it stands in JSON, dates as text: `Value.asJson` says how.

  * `Style.Readable` are the styles whose texts are JSON; all four are;
  * `Json.Reads` says that the text of a value is read up to its end, whatever
    comes after, where there is room for it; `items_write` and `entries_write`
    carry it to arrays and objects, and `reads_value` to all values;
  * `Json.read_write`: a value that is written is read back, unless it is nested
    too deeply.
-/
import Formulary.Proofs.Form.Loading
import Formulary.Proofs.Json.Numerals
import Formulary.Proofs.Json.Strings

namespace Formulary

namespace Json

/-! ## Styles -/

/-- Whether texts of a style are JSON, numbers that are not finite written as
    nothing or as the literals for them. -/
structure Style.Readable (style : Style) (finite : Bool) : Prop where
  controls : style.CodesControls
  comma : ∃ bs, style.comma = ',' :: bs ∧ ∀ c ∈ bs, isBlank c = true
  colon : ∃ bs, style.colon = ':' :: bs ∧ ∀ c ∈ bs, isBlank c = true
  nan : style.doubles.nan = if finite then "null" else "NaN"
  infinity : ∀ negative, style.doubles.infinity negative =
    if finite then "null" else if negative then "-Infinity" else "Infinity"

theorem readable_ascii : Style.ascii.Readable false where
  controls c hc := by simp [Style.ascii, hc]
  comma := ⟨[' '], rfl, by simp [isBlank]⟩
  colon := ⟨[' '], rfl, by simp [isBlank]⟩
  nan := rfl
  infinity _ := rfl

theorem readable_asciiLines : Style.asciiLines.Readable false :=
  { readable_ascii with }

theorem readable_unicode : Style.unicode.Readable true where
  controls c hc := by simp [Style.unicode, hc]
  comma := ⟨[], rfl, by simp⟩
  colon := ⟨[], rfl, by simp⟩
  nan := rfl
  infinity _ := rfl

theorem readable_unicodeLines : Style.unicodeLines.Readable true :=
  { readable_unicode with colon := ⟨[' '], rfl, by simp [isBlank]⟩ }

/-! ## Blanks -/

section
variable {bs s : List Char} {c : Char}

theorem skipBlanks_append (h : ∀ c ∈ bs, isBlank c = true) : skipBlanks (bs ++ s) = skipBlanks s :=
  List.dropWhile_append_of_pos h

theorem skipBlanks_cons (h : isBlank c = false) : skipBlanks (c :: s) = c :: s := by
  rw [skipBlanks, List.dropWhile_cons, h, if_neg Bool.false_ne_true]

theorem isBlank_break (style : Style) (depth : Nat) (h : c ∈ style.break depth) :
    isBlank c = true := by
  unfold Style.break at h
  split at h
  · cases h
  · rcases List.mem_cons.1 h with rfl | h
    · rfl
    · rw [List.eq_of_mem_replicate h]
      rfl

theorem separator_eq {style : Style} {finite : Bool} (hs : style.Readable finite) (depth : Nat) :
    ∃ bs, style.separator depth = ',' :: bs ∧ ∀ c ∈ bs, isBlank c = true := by
  unfold Style.separator
  split
  · exact hs.comma
  · exact ⟨_, rfl, fun c => isBlank_break style depth⟩

/-- No number extends into a blank or a mark after it. -/
theorem stops_cons (h : isBlank c = true ∨ c = ',' ∨ c = ']' ∨ c = '\x7d') :
    Numeral.Stops (c :: s) := by
  have hc : Reading.isDigit c = false ∧ c ≠ '.' ∧ c ≠ 'e' ∧ c ≠ 'E' := by
    simp only [isBlank, Bool.or_eq_true, beq_iff_eq] at h
    rcases h with (((rfl | rfl) | rfl) | rfl) | rfl | rfl | rfl <;> decide
  refine ⟨fun c' h' => ?_, ?_, ?_⟩ <;> simp_all [List.head?_cons]

theorem stops_append (h : ∀ c ∈ bs, isBlank c = true) (hs : Numeral.Stops s) :
    Numeral.Stops (bs ++ s) := by
  cases bs with
  | nil => exact hs
  | cons c bs => exact stops_cons (.inl (h c List.mem_cons_self))

end

/-! ## Values -/

/-- Whether a text starts with something that is no blank, no end of an array
    and no mark of an encoding. -/
def Opens (text : List Char) : Prop :=
  ∃ c s, text = c :: s ∧ isBlank c = false ∧ c ≠ ']' ∧ c ≠ '\ufeff'

theorem Opens.ne_nil {text : List Char} (h : Opens text) : text ≠ [] := by
  obtain ⟨c, s, rfl, -⟩ := h
  exact List.cons_ne_nil c s

theorem opens_of_digit {c : Char} {s : List Char} (h : Reading.isDigit c = true) :
    Opens (c :: s) := by
  refine ⟨c, s, rfl, ?_, ?_, ?_⟩
  · by_contra hb
    simp only [Bool.not_eq_false, isBlank, Bool.or_eq_true, beq_iff_eq] at hb
    rcases hb with ((rfl | rfl) | rfl) | rfl <;> revert h <;> decide
  all_goals
    rintro rfl
    revert h
    decide

theorem opens_signed {negative : Bool} {text : List Char} (h : Numeral.StartsWithDigit text) :
    Opens (if negative then '-' :: text else text) := by
  obtain ⟨c, s, rfl, hc⟩ := h
  cases negative with
  | true => exact ⟨'-', _, rfl, by decide, by decide, by decide⟩
  | false => exact opens_of_digit hc

section
variable {style : Style} {finite : Bool} (hs : style.Readable finite)
include hs

theorem opens_number (n : Number) : Opens (n.write style.doubles).toList := by
  cases n with
  | whole n =>
    rw [Number.write, toList_writeInt]
    exact opens_signed (Numeral.startsWithDigit_toDigits _)
  | real x =>
    cases x with
    | finite negative e f =>
      rw [Number.write, Binary64.write, toList_signed]
      exact opens_signed (Numeral.startsWithDigit_write _ _)
    | infinite negative =>
      rw [Number.write, Binary64.write, hs.infinity]
      cases finite <;> cases negative <;> exact ⟨_, _, rfl, by decide, by decide, by decide⟩
    | nan =>
      rw [Number.write, Binary64.write, hs.nan]
      cases finite <;> exact ⟨_, _, rfl, by decide, by decide, by decide⟩

theorem opens_value (depth : Nat) (v : Value) : Opens (style.value depth v) := by
  cases v with
  | null => exact ⟨_, _, rfl, by decide, by decide, by decide⟩
  | bool b => cases b <;> exact ⟨_, _, rfl, by decide, by decide, by decide⟩
  | number n => exact opens_number hs n
  | text s => exact ⟨_, _, rfl, by decide, by decide, by decide⟩
  | date d => exact ⟨_, _, rfl, by decide, by decide, by decide⟩
  | list vs => cases vs <;> exact ⟨_, _, rfl, by decide, by decide, by decide⟩
  | record es => cases es <;> exact ⟨_, _, rfl, by decide, by decide, by decide⟩

end

/-- A text that starts as numbers do is read as one. -/
theorem value_eq_number {limit room fuel : Nat} {c : Char} {s : List Char}
    (hc : Reading.isDigit c = true ∨ c = '-') : value limit room (fuel + 1) (c :: s) =
      (number limit (c :: s)).map fun (n, rest) => (.number n, rest) := by
  rw [value.eq_def]
  dsimp only
  split
  -- no other value starts with a digit or a minus
  iterate 8
    · rename_i heq
      cases heq
      exact absurd hc (by decide)
  · rfl

theorem value_signed {limit room fuel : Nat} {negative : Bool} {text rest : List Char} {n : Number}
    (h : Numeral.StartsWithDigit text)
    (hn : number limit ((if negative then '-' :: text else text) ++ rest) = .ok (n, rest)) :
    value limit room (fuel + 1) ((if negative then '-' :: text else text) ++ rest) =
      .ok (.number n, rest) := by
  obtain ⟨c, s, rfl, hc⟩ := h
  cases negative with
  | true => exact (value_eq_number (.inr rfl)).trans (map_eq_ok.2 ⟨_, hn, rfl⟩)
  | false => exact (value_eq_number (.inl hc)).trans (map_eq_ok.2 ⟨_, hn, rfl⟩)

section
variable {limit room fuel : Nat} {c : Char} {s t : List Char}

theorem value_array (h : skipBlanks s = c :: t) (hc : c ≠ ']') :
    value limit (room + 1) (fuel + 1) ('[' :: s) =
      (items limit room fuel (c :: t)).map fun (vs, rest) => (.list vs, rest) := by
  rw [value, h]
  split
  · rename_i heq
    cases heq
    exact absurd rfl hc
  · rfl

theorem value_object (h : skipBlanks s = c :: t) (hc : c ≠ '\x7d') :
    value limit (room + 1) (fuel + 1) ('\x7b' :: s) = (entries limit room fuel (c :: t)).map
      fun (es, rest) => (.record (Entries.ofList es), rest) := by
  rw [value, h]
  split
  · rename_i heq
    cases heq
    exact absurd rfl hc
  · rfl

end

/-- Whether the text of a value is read up to its end as the value stands in
    JSON, where there is room for it and whatever comes after it that is no part
    of a number. -/
def Reads (style : Style) (finite : Bool) (v : Value) : Prop :=
  ∀ ⦃depth fuel room : Nat⦄ ⦃rest : List Char⦄, (style.value depth v).length ≤ fuel →
    v.nesting ≤ room → Numeral.Stops rest →
      value maxIntegerDigits room fuel (style.value depth v ++ rest) = .ok (v.asJson finite, rest)

/-- Where there is room for a list, there is one less for its items. -/
theorem exists_room_list {room : Nat} {vs : List Value} (h : (Value.list vs).nesting ≤ room) :
    ∃ k, room = k + 1 ∧ ∀ v ∈ vs, v.nesting ≤ k := by
  cases room with
  | zero => cases h
  | succ k => exact ⟨k, rfl, Value.levels_list_le.1 h⟩

/-- Where there is room for a record, there is one less for its entries. -/
theorem exists_room_record {room : Nat} {es : Entries}
    (h : (Value.record es).nesting ≤ room) : ∃ k, room = k + 1 ∧ ∀ p ∈ es, p.2.nesting ≤ k := by
  cases room with
  | zero => cases h
  | succ k => exact ⟨k, rfl, Value.levels_record_le.1 h⟩

section
variable {style : Style} {finite : Bool} (hs : style.Readable finite)
include hs

/-- Where a text fits into the fuel, there is fuel for a step. -/
theorem exists_fuel {depth fuel : Nat} {v : Value} (hf : (style.value depth v).length ≤ fuel) :
    ∃ k, fuel = k + 1 := by
  have hne := List.length_pos_iff.2 (opens_value hs depth v).ne_nil
  exact Nat.exists_eq_succ_of_ne_zero (by omega)

theorem reads_number {n : Number} (hn : (Value.number n).IsShort) :
    Reads style finite (.number n) := by
  intro depth fuel room rest hf _ hr
  obtain ⟨fuel, rfl⟩ := exists_fuel hs hf
  rw [Style.value]
  cases n with
  | whole n =>
    have h := number_whole (Value.isShort_whole.1 hn) hr
    rw [Number.write]
    rw [toList_writeInt] at h ⊢
    exact value_signed (Numeral.startsWithDigit_toDigits _) h
  | real x =>
    rw [Number.write]
    cases x with
    | finite negative e f =>
      have h := number_finite maxIntegerDigits style.doubles negative e f hr
      rw [Binary64.write, toList_signed] at h ⊢
      exact value_signed (Numeral.startsWithDigit_write _ _) h
    | infinite negative =>
      rw [Binary64.write, hs.infinity]
      cases finite <;> cases negative <;> rfl
    | nan =>
      rw [Binary64.write, hs.nan]
      cases finite <;> rfl

theorem string_eq (s : String) (rest : List Char) :
    string ((style.string s).tail ++ rest) = .ok (s, rest) := by
  rw [Style.string, List.cons_append, List.tail_cons, List.append_assoc]
  exact string_write hs.controls s rest

theorem reads_text (s : String) : Reads style finite (.text s) := by
  intro depth fuel room rest hf _ hr
  obtain ⟨fuel, rfl⟩ := exists_fuel hs hf
  rw [Style.value]
  change (string ((style.string s).tail ++ rest)).map _ = _
  rw [string_eq hs]
  rfl

/-- The items of an array are read up to its end, if each of them is. -/
theorem items_write (depth : Nat) {closing : List Char} (rest : List Char)
    (hc : ∀ c ∈ closing, isBlank c = true) :
    ∀ {vs : List Value} {v : Value} {fuel room : Nat}, (∀ w ∈ v :: vs, Reads style finite w) →
      (∀ w ∈ v :: vs, w.nesting ≤ room) →
      (style.value depth v).length + (style.items depth vs).length + 1 ≤ fuel →
      items maxIntegerDigits room fuel (style.value depth v ++ (style.items depth vs ++
        (closing ++ ']' :: rest))) = .ok (v.asJson finite :: Value.asJsonItems finite vs, rest)
  | [], v, fuel, room, hv, hn, hf => by
    obtain ⟨fuel, rfl⟩ : ∃ k, fuel = k + 1 := ⟨fuel - 1, by omega⟩
    have hstop := stops_append hc (stops_cons (c := ']') (s := rest) (by simp))
    rw [items, Style.items, List.nil_append]
    refine bind_eq_ok.2 ⟨_, hv v List.mem_cons_self (by omega) (hn v List.mem_cons_self) hstop, ?_⟩
    dsimp only
    rw [skipBlanks_append hc, skipBlanks_cons rfl]
    rfl
  | w :: vs, v, fuel, room, hv, hn, hf => by
    obtain ⟨fuel, rfl⟩ : ∃ k, fuel = k + 1 := ⟨fuel - 1, by omega⟩
    obtain ⟨bs, hsep, hbs⟩ := separator_eq hs depth
    obtain ⟨c, s, hcs, hb, -⟩ := opens_value hs depth w
    rw [Style.items, hsep] at hf ⊢
    simp only [List.cons_append, List.append_assoc, List.length_cons, List.length_append] at hf ⊢
    have hw : ∀ u ∈ w :: vs, Reads style finite u := fun u hu => hv u (List.mem_cons_of_mem v hu)
    have hfuel : (style.value depth w).length + (style.items depth vs).length + 1 ≤ fuel := by omega
    have hnested : ∀ u ∈ w :: vs, u.nesting ≤ room := fun u hu => hn u (List.mem_cons_of_mem v hu)
    have ih := items_write depth rest hc hw hnested hfuel
    rw [items]
    refine bind_eq_ok.2 ⟨_, hv v List.mem_cons_self (by omega) (hn v List.mem_cons_self)
      (stops_cons (by simp)), ?_⟩
    dsimp only
    rw [skipBlanks_cons rfl]
    change (items _ _ _ (skipBlanks (bs ++ _)) >>= _) = _
    rw [skipBlanks_append hbs]
    rw [hcs, List.cons_append] at ih ⊢
    rw [skipBlanks_cons hb, ih]
    rfl

/-- An entry is read up to what comes after its value. -/
theorem entry_write {depth fuel room : Nat} {key : String} {v : Value} {tail : List Char}
    (hv : Reads style finite v) (hf : (style.value depth v).length ≤ fuel) (hn : v.nesting ≤ room)
    (ht : Numeral.Stops tail) :
    entries maxIntegerDigits room (fuel + 1)
        (style.string key ++ (style.colon ++ (style.value depth v ++ tail))) =
      match skipBlanks tail with
      | '\x7d' :: rest => .ok ([(key, v.asJson finite)], rest)
      | ',' :: rest => do
        let (es, rest) ← entries maxIntegerDigits room fuel (skipBlanks rest)
        .ok ((key, v.asJson finite) :: es, rest)
      | rest => .error (.expectedComma, rest) := by
  obtain ⟨bs, hcolon, hbs⟩ := hs.colon
  obtain ⟨c, s, hcs, hb, -⟩ := opens_value hs depth v
  have hread := hv hf hn ht
  change entries maxIntegerDigits room (fuel + 1)
    ('"' :: ((style.string key).tail ++ (style.colon ++ (style.value depth v ++ tail)))) = _
  rw [entries.eq_def]
  change (string ((style.string key).tail ++ _) >>= _) = _
  rw [string_eq hs, hcolon]
  simp only [bind, Except.bind, List.cons_append]
  rw [skipBlanks_cons rfl]
  change (value _ _ _ (skipBlanks (bs ++ _)) >>= _) = _
  rw [skipBlanks_append hbs]
  rw [hcs, List.cons_append] at hread ⊢
  rw [skipBlanks_cons hb, hread]
  rfl

/-- The entries of an object are read up to its end, if each of their values is. -/
theorem entries_write (depth : Nat) {closing : List Char} (rest : List Char)
    (hc : ∀ c ∈ closing, isBlank c = true) :
    ∀ {es : Entries} (key : String) {v : Value} {fuel room : Nat}, Reads style finite v →
      v.nesting ≤ room → (∀ p ∈ es, Reads style finite p.2) → (∀ p ∈ es, p.2.nesting ≤ room) →
      (style.value depth v).length + (style.entries depth es).length + 1 ≤ fuel →
      entries maxIntegerDigits room fuel (style.string key ++ (style.colon ++ (style.value depth v ++
        (style.entries depth es ++ (closing ++ '\x7d' :: rest))))) =
          .ok ((key, v.asJson finite) :: Value.asJsonEntries finite es, rest)
  | [], key, v, fuel, room, hv, hn, _, _, hf => by
    obtain ⟨fuel, rfl⟩ : ∃ k, fuel = k + 1 := ⟨fuel - 1, by omega⟩
    have hstop := stops_append hc (stops_cons (c := '\x7d') (s := rest) (by simp))
    rw [Style.entries, List.nil_append, entry_write hs hv (by omega) hn hstop,
      skipBlanks_append hc, skipBlanks_cons rfl]
    rfl
  | (key', w) :: es, key, v, fuel, room, hv, hn, hes, hns, hf => by
    obtain ⟨fuel, rfl⟩ : ∃ k, fuel = k + 1 := ⟨fuel - 1, by omega⟩
    obtain ⟨bs, hsep, hbs⟩ := separator_eq hs depth
    rw [Style.entries, hsep] at hf ⊢
    simp only [List.cons_append, List.append_assoc, List.length_cons, List.length_append] at hf ⊢
    have hw : Reads style finite w := hes (key', w) List.mem_cons_self
    have hfuel : (style.value depth w).length + (style.entries depth es).length + 1 ≤ fuel := by
      omega
    have hrest : ∀ p ∈ es, Reads style finite p.2 := fun p hp => hes p (List.mem_cons_of_mem _ hp)
    have hnw : w.nesting ≤ room := hns (key', w) List.mem_cons_self
    have hnrest : ∀ p ∈ es, p.2.nesting ≤ room := fun p hp => hns p (List.mem_cons_of_mem _ hp)
    have ih := entries_write depth rest hc key' hw hnw hrest hnrest hfuel
    rw [entry_write hs hv (by omega) hn (stops_cons (by simp)), skipBlanks_cons rfl]
    change (entries _ _ _ (skipBlanks (bs ++ _)) >>= _) = _
    rw [skipBlanks_append hbs]
    change (entries _ _ _ (skipBlanks ('"' :: _)) >>= _) = _
    rw [skipBlanks_cons rfl]
    change (entries _ _ _ (style.string key' ++ _) >>= _) = _
    rw [ih]
    rfl

theorem reads_list {vs : List Value} (hvs : ∀ v ∈ vs, Reads style finite v) :
    Reads style finite (.list vs) := by
  intro depth fuel room rest hf hn hr
  obtain ⟨fuel, rfl⟩ := exists_fuel hs hf
  obtain ⟨room, rfl, hroom⟩ := exists_room_list hn
  cases vs with
  | nil => rfl
  | cons v vs =>
    obtain ⟨c, s, hcs, hb, hc, -⟩ := opens_value hs (depth + 1) v
    rw [Style.value] at hf ⊢
    simp only [List.cons_append, List.append_assoc, List.nil_append, List.length_cons,
      List.length_append, List.length_nil] at hf ⊢
    have hfuel : (style.value (depth + 1) v).length + (style.items (depth + 1) vs).length + 1 ≤
        fuel := by omega
    have hitems := items_write hs (depth + 1) rest
      (fun c => isBlank_break style depth) hvs hroom hfuel
    rw [hcs, List.cons_append] at hitems ⊢
    rw [value_array ((skipBlanks_append fun c => isBlank_break style _).trans (skipBlanks_cons hb)) hc,
      hitems]
    rfl

theorem reads_record {es : Entries} (hk : (Entries.keys es).Nodup)
    (hes : ∀ p ∈ es, Reads style finite p.2) : Reads style finite (.record es) := by
  intro depth fuel room rest hf hn hr
  obtain ⟨fuel, rfl⟩ := exists_fuel hs hf
  obtain ⟨room, rfl, hroom⟩ := exists_room_record hn
  cases es with
  | nil => rfl
  | cons p es =>
    obtain ⟨key, v⟩ := p
    rw [Style.value] at hf ⊢
    simp only [List.cons_append, List.append_assoc, List.nil_append, List.length_cons,
      List.length_append, List.length_nil] at hf ⊢
    have hv : Reads style finite v := hes (key, v) List.mem_cons_self
    have hfuel : (style.value (depth + 1) v).length + (style.entries (depth + 1) es).length + 1 ≤
        fuel := by omega
    have hentries := entries_write hs (depth + 1) rest
      (fun c => isBlank_break style depth) key hv (hroom (key, v) List.mem_cons_self)
      (fun p hp => hes p (List.mem_cons_of_mem _ hp))
      (fun p hp => hroom p (List.mem_cons_of_mem _ hp)) hfuel
    have hkeys : Entries.ofList ((key, v.asJson finite) :: Value.asJsonEntries finite es) =
        (key, v.asJson finite) :: Value.asJsonEntries finite es :=
      Entries.ofList_eq_self (Value.keys_asJsonEntries finite ((key, v) :: es) ▸ hk)
    refine (value_object (c := '"') ((skipBlanks_append fun c => isBlank_break style _).trans
      (skipBlanks_cons rfl)) (by decide)).trans ?_
    change (entries _ _ fuel (style.string key ++ _)).map _ = _
    rw [hentries]
    simp only [Except.map, hkeys]
    rfl

end

section
variable {style : Style} {finite : Bool}

mutual

/-- **The text of a value is read up to its end**, whatever comes after. -/
theorem reads_value (hs : style.Readable finite) :
    ∀ v : Value, v.Tidy → v.IsShort → Reads style finite v
  | .null, _, _ | .bool true, _, _ | .bool false, _, _ => by
    intro depth fuel room rest hf _ hr
    obtain ⟨fuel, rfl⟩ := exists_fuel hs hf
    rfl
  | .number n, _, hl => reads_number hs hl
  | .text s, _, _ => reads_text hs s
  | .date d, _, _ => reads_text hs d.write
  | .list vs, ht, hl =>
    reads_list hs (reads_items hs vs (Value.tidy_list.1 ht) (Value.isShort_list.1 hl))
  | .record es, ht, hl =>
    have ht := Value.tidy_record.1 ht
    reads_record hs ht.1 (reads_entries hs es ht.2 (Value.isShort_record.1 hl))

theorem reads_items (hs : style.Readable finite) : ∀ vs : List Value, (∀ v ∈ vs, v.Tidy) →
    (∀ v ∈ vs, v.IsShort) → ∀ v ∈ vs, Reads style finite v
  | [], _, _ => by simp
  | v :: vs, ht, hl => by
    rw [List.forall_mem_cons] at ht hl ⊢
    exact ⟨reads_value hs v ht.1 hl.1, reads_items hs vs ht.2 hl.2⟩

theorem reads_entries (hs : style.Readable finite) : ∀ es : Entries, (∀ p ∈ es, p.2.Tidy) →
    (∀ p ∈ es, p.2.IsShort) → ∀ p ∈ es, Reads style finite p.2
  | [], _, _ => by simp
  | (key, v) :: es, ht, hl => by
    rw [List.forall_mem_cons] at ht hl ⊢
    exact ⟨reads_value hs v ht.1 hl.1, reads_entries hs es ht.2 hl.2⟩

end

/-- **A value that is written is read back**, in each readable style, unless it is
    nested too deeply. -/
theorem read_write (hs : style.Readable finite) {v : Value} (ht : v.Tidy) (hl : v.IsShort)
    (hn : v.nesting ≤ Value.maxNesting) : read (write style v) = .ok (v.asJson finite) := by
  obtain ⟨c, s, hcs, hb, -, hm⟩ := opens_value hs 0 v
  have hfuel : (style.value 0 v).length ≤ 2 * (style.value 0 v).length + 2 := by omega
  have hend : Numeral.Stops [] := ⟨by simp [Numeral.NoDigit], by simp, by simp⟩
  have hread := reads_value hs v ht hl hfuel hn hend
  rw [List.append_nil] at hread
  rw [read, readWithin, write, String.toList_ofList, mapError_eq_ok, document.eq_def]
  rw [hcs] at hread ⊢
  simp only [if_neg hm, skipBlanks_cons hb, hread]
  rfl

end

end Json
end Formulary
