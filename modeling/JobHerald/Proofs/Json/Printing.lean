import JobHerald.Proofs.Json.Numbers

/-!
# Values that are printed

A printed value is read back as itself, with the members of its objects in their order.  Two
things would be lost: a number with a fraction is read as the nearest double, and of two members
with one name the last one counts.

## Main definitions

* `Json.IsExact` — values without doubles, whose objects have no name twice.
* `Json.IsReadBack` — values whose printed form is read as them.

## Main results

* `Json.readItems_itemChars`, `Json.readMembers_memberChars` — items and members are read up to
  the closing bracket.
* `Json.isReadBack` — exact values within the limit of digits are read back.
* `Json.isAscii_chars`, `Json.parse?_spaced` — **a printed value is ASCII, and is read as itself.**
-/

namespace JobHerald.Json

open JobHerald.Text

/-! ### Values that nothing is lost of -/

mutual

/-- No number is a double, and no object has a name twice. -/
def IsExact : Json → Prop
  | real _ => False
  | arr items => ItemsExact items
  | obj members => (Fields.names members).Nodup ∧ MembersExact members
  | _ => True

/-- All items are exact. -/
def ItemsExact : List Json → Prop
  | [] => True
  | v :: rest => IsExact v ∧ ItemsExact rest

/-- The values of all members are exact. -/
def MembersExact : List (String × Json) → Prop
  | [] => True
  | (_, v) :: rest => IsExact v ∧ MembersExact rest

end

theorem itemsExact_iff {items : List Json} : ItemsExact items ↔ ∀ v ∈ items, v.IsExact := by
  induction items with
  | nil => simp [ItemsExact]
  | cons v rest ih => simp [ItemsExact, ih]

theorem membersExact_iff {members : Fields} :
    MembersExact members ↔ ∀ m ∈ members, m.2.IsExact := by
  induction members with
  | nil => simp [MembersExact]
  | cons m rest ih => simp [MembersExact, ih]

/-! ### Values -/

/-- Blanks in front of a value are skipped. -/
theorem readValue_space (n room : Nat) (cs : List Char) :
    readValue n room (' ' :: cs) = readValue n room cs := by
  cases n <;> rfl

theorem readItems_space (n room : Nat) (cs : List Char) :
    readItems n room (' ' :: cs) = readItems n room cs := by
  cases n with
  | zero => rfl
  | succ n => rw [readItems, readItems, readValue_space]

theorem readMembers_space (n room : Nat) (cs : List Char) :
    readMembers n room (' ' :: cs) = readMembers n room cs := by
  cases n <;> rfl

/-- A printed value is read as itself where a value may end. -/
def IsReadBack (v : Json) : Prop :=
  ∀ n room rest, 2 * (chars .spaced v).length < n → (chars .spaced v).length ≤ room →
    Closes rest → readValue n room (chars .spaced v ++ rest) = .ok (v, rest)

/-- What no value begins with: blanks, and the bracket that closes a list. -/
def notFirst : List Char := [' ', '\n', '\r', '\t', ']']

theorem skipBlanks_of_notMem {c : Char} (h : c ∉ notFirst) (cs : List Char) :
    skipBlanks (c :: cs) = c :: cs := by
  simp only [notFirst, List.mem_cons, List.not_mem_nil, or_false, not_or] at h
  simp [skipBlanks, h]

/-- A number begins with a digit or a sign. -/
theorem exists_decimal (n : Int) : ∃ c ds, (Text.decimal n).toList = c :: ds ∧
    (c.isDigit = true ∨ c = '-') := by
  cases n with
  | ofNat n =>
    obtain ⟨d, ds, heq, hd⟩ := exists_toDigits n
    exact ⟨d, ds, by rw [Int.ofNat_eq_natCast, decimal_ofNat, heq], .inl hd⟩
  | negSucc n => exact ⟨_, _, decimal_negSucc n, .inr rfl⟩

theorem notMem_of_isDigit {c : Char} {ds : List Char} (h : c.isDigit = true ∨ c = '-')
    (hds : ds.all (fun d => !d.isDigit && d != '-') = true) : c ∉ ds := by
  intro hmem
  have hc : (!c.isDigit && c != '-') = true := List.all_eq_true.mp hds c hmem
  rcases h with h | rfl
  · simp [h] at hc
  · contradiction

/-- What begins like a number is read as one. -/
theorem readValue_eq_readPlain {c : Char} (h : c.isDigit = true ∨ c = '-') (n room : Nat)
    (cs : List Char) : readValue (n + 1) room (c :: cs) = readPlain (c :: cs) := by
  have hne : c ∉ ['"', '[', '\x7b'] := notMem_of_isDigit h (by decide)
  simp only [List.mem_cons, List.not_mem_nil, or_false, not_or] at hne
  rw [readValue, skipBlanks_of_notMem (notMem_of_isDigit h (by decide))]
  split
  · next hcons => exact absurd (List.cons.inj hcons).1 hne.1
  · next hcons => exact absurd (List.cons.inj hcons).1 hne.2.1
  · next hcons => exact absurd (List.cons.inj hcons).1 hne.2.2
  · rfl

/-- An exact value begins with what may come first: no blank, and nothing that closes a list or an
object. -/
theorem exists_chars {v : Json} (h : v.IsExact) :
    ∃ c ds, chars .spaced v = c :: ds ∧ c ∉ notFirst := by
  cases v with
  | null => exact ⟨_, _, rfl, by decide⟩
  | bool b => cases b <;> exact ⟨_, _, rfl, by decide⟩
  | int n =>
    obtain ⟨c, ds, heq, hc⟩ := exists_decimal n
    exact ⟨c, ds, heq, notMem_of_isDigit hc (by decide)⟩
  | real x => exact h.elim
  | str s => exact ⟨_, _, rfl, by decide⟩
  | arr items => exact ⟨_, _, rfl, by decide⟩
  | obj members => exact ⟨_, _, rfl, by decide⟩

theorem isReadBack_null : IsReadBack null := by
  intro n room rest hn hroom hrest
  obtain ⟨n, rfl⟩ := Nat.exists_eq_add_one.mpr (Nat.zero_lt_of_lt hn)
  rfl

theorem isReadBack_bool (b : Bool) : IsReadBack (bool b) := by
  intro n room rest hn hroom hrest
  obtain ⟨n, rfl⟩ := Nat.exists_eq_add_one.mpr (Nat.zero_lt_of_lt hn)
  cases b <;> rfl

theorem isReadBack_int {n : Int} (h : Text.isWithinLimit n = true) : IsReadBack (int n) := by
  intro m room rest hm hroom hrest
  obtain ⟨m, rfl⟩ := Nat.exists_eq_add_one.mpr (Nat.zero_lt_of_lt hm)
  obtain ⟨c, ds, heq, hc⟩ := exists_decimal n
  rw [chars, ← readPlain_decimal h hrest, heq]
  exact readValue_eq_readPlain hc m room (ds ++ rest)

theorem isReadBack_str (s : String) : IsReadBack (str s) := by
  intro n room rest hn hroom hrest
  obtain ⟨n, rfl⟩ := Nat.exists_eq_add_one.mpr (Nat.zero_lt_of_lt hn)
  show (readString (s.toList.flatMap escape ++ ['"'] ++ rest)).map _ = _
  rw [List.append_assoc, List.singleton_append, readString_escape]
  rfl

/-- **Items are read up to the closing bracket**, by induction on the items; each takes its part of
the fuel. -/
theorem readItems_itemChars {items : List Json} (h : ∀ v ∈ items, IsReadBack v) (hne : items ≠ [])
    {n room : Nat} (hn : 2 * (itemChars .spaced items).length + 1 < n)
    (hroom : (itemChars .spaced items).length ≤ room) (rest : List Char) :
    readItems n room (itemChars .spaced items ++ ']' :: rest) = .ok (items, rest) := by
  induction items generalizing n with
  | nil => exact absurd rfl hne
  | cons v items ih =>
    obtain ⟨n, rfl⟩ := Nat.exists_eq_add_one.mpr (Nat.zero_lt_of_lt hn)
    have hv := h v List.mem_cons_self
    -- the last item is closed by the bracket, the others by a comma
    cases items with
    | nil =>
      rw [itemChars] at hn hroom ⊢
      rw [readItems, hv n room _ (by omega) hroom (closes_cons.mpr (by simp))]
      rfl
    | cons w items =>
      have hlength : (itemChars .spaced (v :: w :: items)).length
          = (chars .spaced v).length + 2 + (itemChars .spaced (w :: items)).length := by
        simp only [itemChars, List.length_append]
        rfl
      have hrest := ih (fun x hx => h x (List.mem_cons_of_mem v hx)) (List.cons_ne_nil w items)
        (n := n) (by omega) (by omega)
      -- the separator is taken apart: the comma closes the item, the blank is skipped
      have happend : itemChars .spaced (v :: w :: items) ++ ']' :: rest = chars .spaced v
          ++ ',' :: ' ' :: (itemChars .spaced (w :: items) ++ ']' :: rest) := by
        simp only [itemChars, List.append_assoc]
        rfl
      rw [happend, readItems, hv n room _ (by omega) (by omega) (closes_cons.mpr (by simp))]
      show (readItems n room (' ' :: _)).map _ = _
      rw [readItems_space, hrest]
      rfl

/-- What stands inside the brackets of a list that is not empty. -/
theorem exists_itemChars {items : List Json} (h : ItemsExact items) (hne : items ≠ []) :
    ∃ c ds, itemChars .spaced items = c :: ds ∧ c ∉ notFirst := by
  obtain ⟨v, rest, rfl⟩ := List.exists_cons_of_ne_nil hne
  obtain ⟨c, ds, heq, hc⟩ := exists_chars h.1
  cases rest with
  | nil => exact ⟨c, ds, heq, hc⟩
  | cons w rest => exact ⟨c, _, by simp only [itemChars, heq, List.cons_append]; rfl, hc⟩

/-- What may not come first is no closing bracket. -/
theorem readValue_bracket {c : Char} (h : c ∉ notFirst) (n room : Nat) (cs : List Char) :
    readValue (n + 1) (room + 1) ('[' :: c :: cs)
      = (readItems n room (c :: cs)).map fun (items, rest) => (arr items, rest) := by
  rw [readValue]
  simp (disch := decide) only [skipBlanks_of_notMem]
  rw [if_neg (Nat.succ_ne_zero room), skipBlanks_of_notMem h]
  split
  · next hcons =>
    rw [(List.cons.inj hcons).1] at h
    exact absurd h (by decide)
  · rfl

theorem isReadBack_arr {items : List Json} (hexact : ItemsExact items)
    (h : ∀ v ∈ items, IsReadBack v) : IsReadBack (arr items) := by
  intro n room rest hn hroom hrest
  have hlength : (chars .spaced (arr items)).length = (itemChars .spaced items).length + 2 := by
    simp [chars]
  obtain ⟨n, rfl⟩ := Nat.exists_eq_add_one.mpr (Nat.zero_lt_of_lt hn)
  obtain ⟨room, rfl⟩ := Nat.exists_eq_add_one.mpr (by omega : 0 < room)
  by_cases hne : items = []
  · subst hne
    rfl
  -- what follows the bracket does not close the list at once
  · obtain ⟨c, ds, heq, hc⟩ := exists_itemChars hexact hne
    have hitems : readItems n room (itemChars .spaced items ++ ']' :: rest) = .ok (items, rest) :=
      readItems_itemChars h hne (by omega) (by omega) rest
    rw [chars, List.cons_append, List.append_assoc, List.singleton_append]
    rw [heq] at hitems ⊢
    rw [List.cons_append] at hitems ⊢
    rw [readValue_bracket hc, hitems]
    rfl

/-! ### Objects -/

theorem length_memberChars_cons (k : String) (v : Json) (members : Fields) :
    (chars .spaced v).length + (memberChars .spaced members).length + 4
      ≤ (memberChars .spaced ((k, v) :: members)).length := by
  have hname : Style.spaced.name.toList.length = 2 := rfl
  have hitem : Style.spaced.item.toList.length = 2 := rfl
  cases members with
  | nil =>
    simp only [memberChars, printString, List.length_append, List.length_cons, List.length_nil]
    omega
  | cons m members =>
    simp only [memberChars, printString, List.length_append, List.length_cons, List.length_nil]
    omega

/-- A member is read with its name, up to what follows. -/
theorem readMembers_member {v : Json} (h : IsReadBack v) (k : String) {n room : Nat}
    (hn : 2 * (chars .spaced v).length < n) (hroom : (chars .spaced v).length ≤ room)
    (rest : List Char) :
    readMembers (n + 1) room (printString k ++ Style.spaced.name.toList ++ chars .spaced v
        ++ '\x7d' :: rest) = .ok ([(k, v)], rest) ∧
      readMembers (n + 1) room (printString k ++ Style.spaced.name.toList ++ chars .spaced v
        ++ ',' :: ' ' :: rest) = (readMembers n room rest).map fun (members, rest) =>
          ((k, v) :: members, rest) := by
  -- the name with its colon stands before the value
  have hcons (rest : List Char) :
      printString k ++ Style.spaced.name.toList ++ chars .spaced v ++ rest
        = '"' :: (k.toList.flatMap escape ++ '"' :: ':' :: ' ' :: (chars .spaced v ++ rest)) := by
    simp only [printString, List.append_assoc, List.cons_append, List.nil_append]
    rfl
  have hlast := h n room ('\x7d' :: rest) hn hroom (closes_cons.mpr (by simp))
  have hnext := h n room (',' :: ' ' :: rest) hn hroom (closes_cons.mpr (by simp))
  constructor
  · rw [hcons, readMembers]
    simp (disch := decide) only [skipBlanks_of_notMem, readString_escape, readValue_space, hlast]
  · rw [hcons, readMembers, ← readMembers_space n room rest]
    simp (disch := decide) only [skipBlanks_of_notMem, readString_escape, readValue_space, hnext]

/-- **Members are read up to the closing brace**, by induction on the members, with their names in
front. -/
theorem readMembers_memberChars {members : Fields} (h : ∀ m ∈ members, IsReadBack m.2)
    (hne : members ≠ []) {n room : Nat} (hn : 2 * (memberChars .spaced members).length + 1 < n)
    (hroom : (memberChars .spaced members).length ≤ room) (rest : List Char) :
    readMembers n room (memberChars .spaced members ++ '\x7d' :: rest) = .ok (members, rest) := by
  induction members generalizing n with
  | nil => exact absurd rfl hne
  | cons m members ih =>
    obtain ⟨k, v⟩ := m
    obtain ⟨n, rfl⟩ := Nat.exists_eq_add_one.mpr (Nat.zero_lt_of_lt hn)
    have hv : IsReadBack v := h (k, v) List.mem_cons_self
    have hlength := length_memberChars_cons k v members
    have hmember := readMembers_member hv k (n := n) (by omega) (by omega : _ ≤ room)
    -- the last member is closed by the brace, the others by a comma
    cases members with
    | nil =>
      rw [memberChars]
      exact (hmember rest).1
    | cons m members =>
      have hrest := ih (fun x hx => h x (List.mem_cons_of_mem _ hx)) (List.cons_ne_nil m members)
        (n := n) (by omega) (by omega)
      have happend : memberChars .spaced ((k, v) :: m :: members) ++ '\x7d' :: rest
          = printString k ++ Style.spaced.name.toList ++ chars .spaced v
            ++ ',' :: ' ' :: (memberChars .spaced (m :: members) ++ '\x7d' :: rest) := by
        simp only [memberChars, List.append_assoc]
        rfl
      rw [happend, (hmember _).2, hrest]
      rfl

/-- A new name comes last. -/
theorem insert_of_notMem {name : String} {fs : Fields} (h : name ∉ fs.names) (value : Json) :
    fs.insert name value = fs ++ [(name, value)] := by
  induction fs with
  | nil => rfl
  | cons m fs ih =>
    obtain ⟨k, v⟩ := m
    simp only [Fields.names, List.map_cons, List.mem_cons, not_or] at h
    rw [Fields.insert, if_neg (Ne.symm h.1), ih h.2, List.cons_append]

/-- Members with different names are kept as they are, in their order. -/
theorem insertAll_eq_append {fs new : Fields} (h : (Fields.names (fs ++ new)).Nodup) :
    fs.insertAll new = fs ++ new := by
  induction new generalizing fs with
  | nil => rw [List.append_nil]; rfl
  | cons m new ih =>
    obtain ⟨k, v⟩ := m
    -- the name is new, so that the member goes to the end
    have hk : k ∉ fs.names := by
      intro hmem
      rw [Fields.names, List.map_append, List.nodup_append] at h
      exact h.2.2 k hmem k List.mem_cons_self rfl
    show (fs.insert k v).insertAll new = _
    rw [insert_of_notMem hk, ih (by rw [List.append_assoc]; exact h), List.append_assoc]
    rfl

/-- A member begins with the quote of its name. -/
theorem exists_memberChars {members : Fields} (h : members ≠ []) :
    ∃ ds, memberChars .spaced members = '"' :: ds := by
  obtain ⟨⟨k, v⟩, rest, rfl⟩ := List.exists_cons_of_ne_nil h
  cases rest with
  | nil => exact ⟨_, by rw [memberChars]; rfl⟩
  | cons m rest => exact ⟨_, by simp only [memberChars]; rfl⟩

theorem isReadBack_obj {members : Fields} (hnames : (Fields.names members).Nodup)
    (h : ∀ m ∈ members, IsReadBack m.2) : IsReadBack (obj members) := by
  intro n room rest hn hroom hrest
  have hlength : (chars .spaced (obj members)).length
      = (memberChars .spaced members).length + 2 := by simp [chars]
  obtain ⟨n, rfl⟩ := Nat.exists_eq_add_one.mpr (Nat.zero_lt_of_lt hn)
  obtain ⟨room, rfl⟩ := Nat.exists_eq_add_one.mpr (by omega : 0 < room)
  by_cases hne : members = []
  · subst hne
    rfl
  · obtain ⟨ds, heq⟩ := exists_memberChars hne
    have hmembers : readMembers n room (memberChars .spaced members ++ '\x7d' :: rest)
        = .ok (members, rest) := readMembers_memberChars h hne (by omega) (by omega) rest
    rw [chars, List.cons_append, List.append_assoc, List.singleton_append]
    rw [heq] at hmembers ⊢
    show (readMembers n room ('"' :: ds ++ '\x7d' :: rest)).map _ = _
    rw [hmembers]
    show Except.ok (obj (Fields.insertAll [] members), rest) = _
    -- different names are kept apart, and in their order
    have hinsert : Fields.insertAll [] members = members := insertAll_eq_append hnames
    rw [hinsert]

/-! ### Whole texts -/

theorem itemsWithinLimit_iff {items : List Json} :
    itemsWithinLimit items = true ↔ ∀ v ∈ items, v.isWithinLimit = true := by
  induction items with
  | nil => simp [itemsWithinLimit]
  | cons v rest ih => simp [itemsWithinLimit, ih]

theorem membersWithinLimit_iff {members : Fields} :
    membersWithinLimit members = true ↔ ∀ m ∈ members, m.2.isWithinLimit = true := by
  induction members with
  | nil => simp [membersWithinLimit]
  | cons m rest ih => simp [membersWithinLimit, ih]

theorem sizeOf_member_lt {m : String × Json} {members : Fields} (h : m ∈ members) :
    sizeOf m.2 < sizeOf (obj members) := by
  have hmember := List.sizeOf_lt_of_mem h
  obtain ⟨k, v⟩ := m
  simp only [Prod.mk.sizeOf_spec, obj.sizeOf_spec] at hmember ⊢
  omega

/-- **Exact values within the limit of digits are read back**, in front of what closes a value. -/
theorem isReadBack (v : Json) (hexact : v.IsExact) (hlimit : v.isWithinLimit = true) :
    IsReadBack v := by
  cases v with
  | null => exact isReadBack_null
  | bool b => exact isReadBack_bool b
  | int n =>
    rw [isWithinLimit] at hlimit
    exact isReadBack_int hlimit
  | real x => exact hexact.elim
  | str s => exact isReadBack_str s
  | arr items =>
    rw [isWithinLimit, itemsWithinLimit_iff] at hlimit
    exact isReadBack_arr hexact fun v hv =>
      isReadBack v (itemsExact_iff.mp hexact v hv) (hlimit v hv)
  | obj members =>
    rw [isWithinLimit, membersWithinLimit_iff] at hlimit
    exact isReadBack_obj hexact.1 fun m hm =>
      have _hsize := sizeOf_member_lt hm
      isReadBack m.2 (membersExact_iff.mp hexact.2 m hm) (hlimit m hm)
termination_by v

/-- **A printed value is read as itself.**  The fuel is enough since it is counted off the text. -/
theorem parse?_spaced {v : Json} (hexact : v.IsExact) (hlimit : v.isWithinLimit = true) :
    parse? v.spaced = some v := by
  have hlist : v.spaced.toList = chars .spaced v := String.toList_ofList
  have hlength : v.spaced.length = (chars .spaced v).length := by
    rw [← hlist, String.length_toList]
  have hread := isReadBack v hexact hlimit (2 * v.spaced.length + 2) v.spaced.length [] (by omega)
    (by omega) closes_nil
  rw [List.append_nil] at hread
  rw [parse?, readText, hlist, hread]
  rfl

/-! ### Visible characters -/

theorem isAscii_toDigits (n : Nat) : IsAscii (Nat.toDigits 10 n) := fun c hc => by
  have hle := (toNat_of_isDigit (isDigit_of_mem_toDigits hc)).2
  omega

theorem isAscii_decimal (n : Int) : IsAscii (Text.decimal n).toList := by
  cases n with
  | ofNat n =>
    rw [Int.ofNat_eq_natCast, decimal_ofNat]
    exact isAscii_toDigits n
  | negSucc n =>
    rw [decimal_negSucc]
    exact isAscii_cons.mpr ⟨by decide, isAscii_toDigits (n + 1)⟩

theorem isAscii_itemChars {items : List Json} (h : ∀ v ∈ items, IsAscii (chars .spaced v)) :
    IsAscii (itemChars .spaced items) := by
  have hitem : IsAscii Style.spaced.item.toList := by simp [Style.spaced]
  induction items with
  | nil => exact isAscii_nil
  | cons v rest ih =>
    have hv := h v List.mem_cons_self
    have hrest := ih fun w hw => h w (List.mem_cons_of_mem v hw)
    cases rest with
    | nil => exact hv
    | cons w rest =>
      simp only [itemChars, isAscii_append]
      exact ⟨⟨hv, hitem⟩, hrest⟩

theorem isAscii_memberChars {members : Fields} (h : ∀ m ∈ members, IsAscii (chars .spaced m.2)) :
    IsAscii (memberChars .spaced members) := by
  have hitem : IsAscii Style.spaced.item.toList := by simp [Style.spaced]
  have hname : IsAscii Style.spaced.name.toList := by simp [Style.spaced]
  induction members with
  | nil => exact isAscii_nil
  | cons m rest ih =>
    obtain ⟨k, v⟩ := m
    have hv := h (k, v) List.mem_cons_self
    have hrest := ih fun w hw => h w (List.mem_cons_of_mem _ hw)
    cases rest with
    | nil =>
      rw [memberChars, isAscii_append, isAscii_append]
      exact ⟨⟨isAscii_printString k, hname⟩, hv⟩
    | cons w rest =>
      simp only [memberChars, isAscii_append]
      exact ⟨⟨⟨⟨isAscii_printString k, hname⟩, hv⟩, hitem⟩, hrest⟩

/-- **An exact value is printed in ASCII**: all other characters are written as escapes. -/
theorem isAscii_chars (v : Json) (h : v.IsExact) : IsAscii (chars .spaced v) := by
  cases v with
  | null => simp [chars]
  | bool b => cases b <;> simp [chars]
  | int n => exact isAscii_decimal n
  | real x => exact h.elim
  | str s => exact isAscii_printString s
  | arr items =>
    simp only [chars, isAscii_cons, isAscii_append, isAscii_nil]
    exact ⟨by decide, isAscii_itemChars fun v hv => isAscii_chars v (itemsExact_iff.mp h v hv),
      by decide, trivial⟩
  | obj members =>
    simp only [chars, isAscii_cons, isAscii_append, isAscii_nil]
    exact ⟨by decide, isAscii_memberChars fun m hm =>
        have _hsize := sizeOf_member_lt hm
        isAscii_chars m.2 (membersExact_iff.mp h.2 m hm),
      by decide, trivial⟩
termination_by v

end JobHerald.Json
