import Mathlib.Algebra.Order.Ring.Nat
import Mathlib.Data.List.Basic

/-!
# JSON values and their compact text

A small JSON library: values, the compact text of a value, a parser with an
explicit bound on its recursion, and the round trip between them for *plain*
values (no floating-point numbers; strings of ASCII characters that need no
escape).

- `parse_text`: the parser reads back the text of a plain value, whatever
  follows that is not a digit.
- `parse_ofBytes`: the same for a whole document in bytes.
- `parse_take`: the text of an object that is cut off anywhere is no text.
-/

/-- A JSON value. Objects list their members in the order of their text. A
floating-point number is represented by its integral part. -/
inductive Json
  | null
  | bool (b : Bool)
  | int (i : Int)
  | float (truncated : Int64)
  | str (s : String)
  | arr (xs : List Json)
  | obj (members : List (String × Json))

namespace Json

/-! ## Text -/

/-- Decimal text of an integer. -/
def intText : Int → List Char
  | .ofNat n => Nat.toDigits 10 n
  | .negSucc n => '-' :: Nat.toDigits 10 (n + 1)

/-- A string between quotes. -/
def strText (s : String) : List Char :=
  '"' :: (s.toList ++ ['"'])

theorem length_strText (s : String) : (strText s).length = s.length + 2 := by
  simp [strText, String.length_toList]

mutual
/-- The compact text of a value. -/
def text : Json → List Char
  | .null => "null".toList
  | .bool true => "true".toList
  | .bool false => "false".toList
  | .int i => intText i
  | .float v => intText v.toInt ++ ['.', '0']
  | .str s => strText s
  | .arr [] => ['[', ']']
  | .arr (x :: xs) => '[' :: (text x ++ textElems xs)
  | .obj [] => ['{', '}']
  | .obj ((key, x) :: members) => '{' :: (strText key ++ ':' :: (text x ++ textMembers members))

/-- The elements after the first one, with the closing bracket. -/
def textElems : List Json → List Char
  | [] => [']']
  | x :: xs => ',' :: (text x ++ textElems xs)

/-- The members after the first one, with the closing brace. -/
def textMembers : List (String × Json) → List Char
  | [] => ['}']
  | (key, x) :: members => ',' :: (strText key ++ ':' :: (text x ++ textMembers members))
end

/-! ## Parser -/

/-- A run of digits. -/
def parseNat (cs : List Char) : Option (Nat × List Char) :=
  match cs.takeWhile Char.isDigit with
  | [] => none
  | ds => some (Nat.ofDigitChars 10 ds 0, cs.dropWhile Char.isDigit)

/-- The rest of a string, up to the closing quote. -/
def parseString (cs : List Char) : Option (String × List Char) :=
  match cs.dropWhile (· != '"') with
  | [] => none
  | _ :: rest => some (String.ofList (cs.takeWhile (· != '"')), rest)

/-- A key and its colon. -/
def parseKey (cs : List Char) : Option (String × List Char) :=
  match cs with
  | '"' :: cs =>
    match parseString cs with
    | some (key, ':' :: rest) => some (key, rest)
    | _ => none
  | _ => none

mutual
/-- Parse one value; `n` bounds the recursion. -/
def parseValue : Nat → List Char → Option (Json × List Char)
  | 0, _ => none
  | _ + 1, [] => none
  | n + 1, c :: cs =>
    if c = '[' then
      if cs.head? = some ']' then some (.arr [], cs.tail)
      else
        match parseValue n cs with
        | none => none
        | some (x, cs) =>
          match parseElems n cs with
          | none => none
          | some (xs, cs) => some (.arr (x :: xs), cs)
    else if c = '{' then
      if cs.head? = some '}' then some (.obj [], cs.tail)
      else
        match parseKey cs with
        | none => none
        | some (key, cs) =>
          match parseValue n cs with
          | none => none
          | some (x, cs) =>
            match parseMembers n cs with
            | none => none
            | some (members, cs) => some (.obj ((key, x) :: members), cs)
    else if c = '"' then (parseString cs).map fun (s, cs) => (.str s, cs)
    else if c = '-' then (parseNat cs).map fun (m, cs) => (.int (-m), cs)
    else if c.isDigit then (parseNat (c :: cs)).map fun (m, cs) => (.int m, cs)
    else if "null".toList.isPrefixOf (c :: cs) then some (.null, cs.drop 3)
    else if "true".toList.isPrefixOf (c :: cs) then some (.bool true, cs.drop 3)
    else if "false".toList.isPrefixOf (c :: cs) then some (.bool false, cs.drop 4)
    else none

/-- Parse the elements after the first one. -/
def parseElems : Nat → List Char → Option (List Json × List Char)
  | 0, _ => none
  | n + 1, cs =>
    match cs with
    | ']' :: cs => some ([], cs)
    | ',' :: cs =>
      match parseValue n cs with
      | none => none
      | some (x, cs) =>
        match parseElems n cs with
        | none => none
        | some (xs, cs) => some (x :: xs, cs)
    | _ => none

/-- Parse the members after the first one. -/
def parseMembers : Nat → List Char → Option (List (String × Json) × List Char)
  | 0, _ => none
  | n + 1, cs =>
    match cs with
    | '}' :: cs => some ([], cs)
    | ',' :: cs =>
      match parseKey cs with
      | none => none
      | some (key, cs) =>
        match parseValue n cs with
        | none => none
        | some (x, cs) =>
          match parseMembers n cs with
          | none => none
          | some (members, cs) => some ((key, x) :: members, cs)
    | _ => none
end

/-! ## Plain values -/

/-- A string whose text needs no escape and no multi-byte character. -/
def PlainString (s : String) : Prop :=
  ∀ c ∈ s.toList, c ≠ '"' ∧ c ≠ '\\' ∧ c.toNat < 128

instance (s : String) : Decidable (PlainString s) :=
  List.decidableBAll _ _

mutual
/-- No floating-point number and only plain strings. -/
def Plain : Json → Prop
  | .null | .bool _ | .int _ => True
  | .float _ => False
  | .str s => PlainString s
  | .arr xs => PlainElems xs
  | .obj members => PlainMembers members

def PlainElems : List Json → Prop
  | [] => True
  | x :: xs => Plain x ∧ PlainElems xs

def PlainMembers : List (String × Json) → Prop
  | [] => True
  | (key, x) :: members => PlainString key ∧ Plain x ∧ PlainMembers members
end

/-! ## Round trip -/

/-- What follows a value does not continue a number. -/
def NoDigit (rest : List Char) : Prop :=
  ∀ c ∈ rest.head?, c.isDigit = false

theorem noDigit_cons {c : Char} (h : c.isDigit = false) (rest : List Char) : NoDigit (c :: rest) := by
  intro d hd
  cases Option.mem_some.mp hd
  exact h

theorem isDigit_of_mem_toDigits {n : Nat} {c : Char} (h : c ∈ Nat.toDigits 10 n) : c.isDigit :=
  Nat.isDigit_of_mem_toDigits (by decide) (by decide) h

/-- A number below a power of ten is short. -/
theorem length_toDigits_le {n k : Nat} (hk : 0 < k) (h : n < 10 ^ k) :
    (Nat.toDigits 10 n).length ≤ k :=
  (Nat.length_toDigits_le_iff (by decide) hk).mpr h

theorem takeWhile_digits {ds rest : List Char} (hds : ∀ c ∈ ds, c.isDigit) (hrest : NoDigit rest) :
    (ds ++ rest).takeWhile Char.isDigit = ds ∧ (ds ++ rest).dropWhile Char.isDigit = rest := by
  rw [List.takeWhile_append_of_pos hds, List.dropWhile_append_of_pos hds]
  cases rest with
  | nil => simp
  | cons c rest =>
    have hc : c.isDigit = false := hrest c rfl
    simp [hc]

theorem parseNat_toDigits (n : Nat) {rest : List Char} (hrest : NoDigit rest) :
    parseNat (Nat.toDigits 10 n ++ rest) = some (n, rest) := by
  obtain ⟨htake, hdrop⟩ := takeWhile_digits (fun _ => isDigit_of_mem_toDigits (n := n)) hrest
  unfold parseNat
  rw [htake, hdrop]
  split
  · rename_i hnil
    exact absurd hnil Nat.toDigits_ne_nil
  · rw [Nat.ofDigitChars_ten_toDigits]

theorem parseString_plain {s : String} (hs : PlainString s) (rest : List Char) :
    parseString (s.toList ++ '"' :: rest) = some (s, rest) := by
  have hne : ∀ c ∈ s.toList, (c != '"') = true := by
    intro c hc
    simpa using (hs c hc).1
  unfold parseString
  rw [List.takeWhile_append_of_pos hne, List.dropWhile_append_of_pos hne]
  simp

theorem parseKey_plain {s : String} (hs : PlainString s) (rest : List Char) :
    parseKey (strText s ++ ':' :: rest) = some (s, rest) := by
  have h := parseString_plain hs (':' :: rest)
  simp [parseKey, strText, h]

/-- A digit is none of the characters that start another kind of value. -/
theorem digit_ne {c : Char} (h : c.isDigit) : c ≠ '[' ∧ c ≠ '{' ∧ c ≠ '"' ∧ c ≠ '-' := by
  refine ⟨?_, ?_, ?_, ?_⟩ <;> (rintro rfl; exact absurd h (by decide))

theorem parseValue_int (n : Nat) (i : Int) {rest : List Char} (hrest : NoDigit rest) :
    parseValue (n + 1) (intText i ++ rest) = some (.int i, rest) := by
  cases i with
  | ofNat m =>
    have hnat := parseNat_toDigits m hrest
    obtain ⟨d, ds, hds⟩ := List.exists_cons_of_ne_nil (Nat.toDigits_ne_nil (n := m) (b := 10))
    have hd : d.isDigit := isDigit_of_mem_toDigits (n := m) (by rw [hds]; exact List.mem_cons_self)
    obtain ⟨h1, h2, h3, h4⟩ := digit_ne hd
    rw [hds, List.cons_append] at hnat
    show parseValue (n + 1) (Nat.toDigits 10 m ++ rest) = _
    rw [hds, List.cons_append]
    simp only [parseValue, h1, h2, h3, h4, if_false, hd, if_true, hnat]
    rfl
  | negSucc m =>
    show parseValue (n + 1) ('-' :: (Nat.toDigits 10 (m + 1) ++ rest)) = _
    simp only [parseValue, Char.reduceEq, if_false, if_true, parseNat_toDigits (m + 1) hrest]
    rfl

theorem intText_head (i : Int) : ∃ c cs, intText i = c :: cs ∧ (c = '-' ∨ c.isDigit) := by
  cases i with
  | ofNat m =>
    obtain ⟨d, ds, hds⟩ := List.exists_cons_of_ne_nil (Nat.toDigits_ne_nil (n := m) (b := 10))
    exact ⟨d, ds, hds, Or.inr (isDigit_of_mem_toDigits (n := m) (by rw [hds]; exact List.mem_cons_self))⟩
  | negSucc m => exact ⟨'-', _, rfl, Or.inl rfl⟩

/-- A text starts with a character that closes no list. -/
theorem text_head (j : Json) : ∃ c cs, text j = c :: cs ∧ c ≠ ']' ∧ c ≠ '}' := by
  have hint : ∀ c : Char, c = '-' ∨ c.isDigit → c ≠ ']' ∧ c ≠ '}' := by
    rintro c (rfl | h)
    · decide
    · refine ⟨?_, ?_⟩ <;> (rintro rfl; exact absurd h (by decide))
  cases j with
  | null => exact ⟨'n', "ull".toList, by rw [text]; rfl, by decide⟩
  | bool b =>
    cases b
    · exact ⟨'f', "alse".toList, by rw [text]; rfl, by decide⟩
    · exact ⟨'t', "rue".toList, by rw [text]; rfl, by decide⟩
  | int i =>
    obtain ⟨c, cs, hcs, hc⟩ := intText_head i
    exact ⟨c, cs, by rw [text, hcs], hint c hc⟩
  | float v =>
    obtain ⟨c, cs, hcs, hc⟩ := intText_head v.toInt
    exact ⟨c, cs ++ ['.', '0'], by rw [text, hcs]; rfl, hint c hc⟩
  | str s => exact ⟨'"', _, by rw [text]; rfl, by decide⟩
  | arr xs =>
    cases xs with
    | nil => exact ⟨'[', _, by rw [text], by decide⟩
    | cons x xs => exact ⟨'[', _, by rw [text], by decide⟩
  | obj members =>
    cases members with
    | nil => exact ⟨'{', _, by rw [text], by decide⟩
    | cons m members => exact ⟨'{', _, by rw [text], by decide⟩

theorem noDigit_textElems (xs : List Json) (rest : List Char) : NoDigit (textElems xs ++ rest) := by
  cases xs with
  | nil => exact noDigit_cons (by decide) _
  | cons x xs =>
    rw [textElems]
    exact noDigit_cons (by decide) _

theorem noDigit_textMembers (members : List (String × Json)) (rest : List Char) :
    NoDigit (textMembers members ++ rest) := by
  cases members with
  | nil => exact noDigit_cons (by decide) _
  | cons m members =>
    rw [textMembers]
    exact noDigit_cons (by decide) _

/-- The parser reads back what is no longer than its bound. -/
structure ReadsBack (n : Nat) : Prop where
  value : ∀ j rest, Plain j → NoDigit rest → (text j).length ≤ n →
    parseValue n (text j ++ rest) = some (j, rest)
  elems : ∀ xs rest, PlainElems xs → (textElems xs).length ≤ n →
    parseElems n (textElems xs ++ rest) = some (xs, rest)
  members : ∀ members rest, PlainMembers members → (textMembers members).length ≤ n →
    parseMembers n (textMembers members ++ rest) = some (members, rest)

/-- No text is empty. -/
theorem readsBack_zero : ReadsBack 0 := by
  constructor
  · intro j rest _ _ hlen
    obtain ⟨c, cs, hcs, -, -⟩ := text_head j
    simp [hcs] at hlen
  · intro xs rest _ hlen
    cases xs <;> simp [textElems] at hlen
  · intro members rest _ hlen
    cases members <;> simp [textMembers] at hlen

namespace ReadsBack

variable {n : Nat}

theorem elems_succ (h : ReadsBack n) {xs : List Json} (rest : List Char)
    (hplain : PlainElems xs) (hlen : (textElems xs).length ≤ n + 1) :
    parseElems (n + 1) (textElems xs ++ rest) = some (xs, rest) := by
  cases xs with
  | nil => simp [textElems, parseElems]
  | cons x xs =>
    rw [PlainElems] at hplain
    rw [textElems] at hlen ⊢
    simp only [List.length_cons, List.length_append] at hlen
    have hvalue := h.value x (textElems xs ++ rest) hplain.1 (noDigit_textElems xs rest) (by omega)
    have helems := h.elems xs rest hplain.2 (by omega)
    simp only [List.cons_append, List.append_assoc, parseElems, hvalue, helems]

theorem members_succ (h : ReadsBack n) {members : List (String × Json)} (rest : List Char)
    (hplain : PlainMembers members) (hlen : (textMembers members).length ≤ n + 1) :
    parseMembers (n + 1) (textMembers members ++ rest) = some (members, rest) := by
  cases members with
  | nil => simp [textMembers, parseMembers]
  | cons m members =>
    obtain ⟨key, x⟩ := m
    rw [PlainMembers] at hplain
    rw [textMembers] at hlen ⊢
    simp only [List.length_cons, List.length_append] at hlen
    have hkey := parseKey_plain hplain.1 (text x ++ (textMembers members ++ rest))
    have hvalue := h.value x (textMembers members ++ rest) hplain.2.1
      (noDigit_textMembers members rest) (by omega)
    have hmembers := h.members members rest hplain.2.2 (by omega)
    simp only [List.cons_append, List.append_assoc, parseMembers, hkey, hvalue, hmembers]

theorem arr_succ (h : ReadsBack n) {xs : List Json} (rest : List Char)
    (hplain : Plain (.arr xs)) (hlen : (text (.arr xs)).length ≤ n + 1) :
    parseValue (n + 1) (text (.arr xs) ++ rest) = some (.arr xs, rest) := by
  cases xs with
  | nil => simp [text, parseValue]
  | cons x xs =>
    rw [Plain, PlainElems] at hplain
    rw [text] at hlen ⊢
    simp only [List.length_cons, List.length_append] at hlen
    -- A value does not begin with the bracket that would close the array.
    obtain ⟨c, cs, hcs, hclose, -⟩ := text_head x
    have hhead : (text x ++ (textElems xs ++ rest)).head? ≠ some ']' := by simp [hcs, hclose]
    have hvalue := h.value x (textElems xs ++ rest) hplain.1 (noDigit_textElems xs rest) (by omega)
    have helems := h.elems xs rest hplain.2 (by omega)
    simp only [List.cons_append, List.append_assoc, parseValue, if_true, hhead, if_false, hvalue,
      helems]

theorem obj_succ (h : ReadsBack n) {members : List (String × Json)} (rest : List Char)
    (hplain : Plain (.obj members)) (hlen : (text (.obj members)).length ≤ n + 1) :
    parseValue (n + 1) (text (.obj members) ++ rest) = some (.obj members, rest) := by
  cases members with
  | nil => simp [text, parseValue]
  | cons m members =>
    obtain ⟨key, x⟩ := m
    rw [Plain, PlainMembers] at hplain
    rw [text] at hlen ⊢
    simp only [List.length_cons, List.length_append] at hlen
    have hhead : (strText key ++ ':' :: (text x ++ (textMembers members ++ rest))).head?
        ≠ some '}' := by
      simp [strText]
    have hkey := parseKey_plain hplain.1 (text x ++ (textMembers members ++ rest))
    have hvalue := h.value x (textMembers members ++ rest) hplain.2.1
      (noDigit_textMembers members rest) (by omega)
    have hmembers := h.members members rest hplain.2.2 (by omega)
    simp only [List.cons_append, List.append_assoc, parseValue, if_true, hhead, if_false, hkey,
      hvalue, hmembers, Char.reduceEq]

theorem value_succ (h : ReadsBack n) (j : Json) {rest : List Char} (hplain : Plain j)
    (hrest : NoDigit rest) (hlen : (text j).length ≤ n + 1) :
    parseValue (n + 1) (text j ++ rest) = some (j, rest) := by
  cases j with
  | null => simp [text, parseValue]
  | bool b => cases b <;> simp [text, parseValue]
  | int i =>
    rw [text]
    exact parseValue_int n i hrest
  | float v => exact absurd hplain (by simp [Plain])
  | str s =>
    rw [Plain] at hplain
    simp [text, strText, parseValue, parseString_plain hplain]
  | arr xs => exact h.arr_succ rest hplain hlen
  | obj members => exact h.obj_succ rest hplain hlen

end ReadsBack

/-- **The parser reads a text back**, by induction on its bound. -/
theorem parse_text (n : Nat) : ReadsBack n := by
  induction n with
  | zero => exact readsBack_zero
  | succ n ih =>
    exact {
      value := fun j _ hplain hrest hlen => ih.value_succ j hplain hrest hlen
      elems := fun _ rest hplain hlen => ih.elems_succ rest hplain hlen
      members := fun _ rest hplain hlen => ih.members_succ rest hplain hlen }

/-- The parser on a whole document: white space may follow the value. -/
def parse (cs : List Char) : Option Json :=
  match parseValue cs.length cs with
  | some (j, rest) => if rest.all Char.isWhitespace then some j else none
  | none => none

theorem parse_text_newline {j : Json} (h : Plain j) : parse (text j ++ ['\n']) = some j := by
  have hvalue := (parse_text (text j ++ ['\n']).length).value j ['\n'] h
    (noDigit_cons (by decide) []) (by simp)
  rw [parse, hvalue]
  rfl

/-! ## Texts that are cut off -/

/-- A run that stops before the end of a text stops there in every longer text. -/
theorem span_extend {p : Char → Bool} {cs ext : List Char} (h : cs.dropWhile p ≠ []) :
    (cs ++ ext).takeWhile p = cs.takeWhile p ∧
      (cs ++ ext).dropWhile p = cs.dropWhile p ++ ext := by
  induction cs with
  | nil => exact absurd rfl h
  | cons c cs ih =>
    by_cases hc : p c
    · have hcs : cs.dropWhile p ≠ [] := by simpa [hc] using h
      simpa [hc] using ih hcs
    · simp [hc]

theorem parseNat_extend {cs rest : List Char} {m : Nat} (h : parseNat cs = some (m, rest))
    (hrest : rest ≠ []) (ext : List Char) : parseNat (cs ++ ext) = some (m, rest ++ ext) := by
  unfold parseNat at h ⊢
  cases hds : cs.takeWhile Char.isDigit with
  | nil =>
    rw [hds] at h
    cases h
  | cons d ds =>
    simp only [hds, Option.some.injEq, Prod.mk.injEq] at h
    obtain ⟨rfl, rfl⟩ := h
    obtain ⟨htake, hdrop⟩ := @span_extend Char.isDigit cs ext hrest
    simp only [htake, hds, hdrop]

theorem parseString_extend {cs rest : List Char} {s : String}
    (h : parseString cs = some (s, rest)) (ext : List Char) :
    parseString (cs ++ ext) = some (s, rest ++ ext) := by
  unfold parseString at h ⊢
  cases hds : cs.dropWhile (· != '"') with
  | nil =>
    rw [hds] at h
    cases h
  | cons d ds =>
    simp only [hds, Option.some.injEq, Prod.mk.injEq] at h
    obtain ⟨rfl, rfl⟩ := h
    obtain ⟨htake, hdrop⟩ := @span_extend (· != '"') cs ext (by simp [hds])
    simp only [htake, hdrop, hds, List.cons_append]

theorem parseKey_extend {cs rest : List Char} {key : String}
    (h : parseKey cs = some (key, rest)) (ext : List Char) :
    parseKey (cs ++ ext) = some (key, rest ++ ext) := by
  unfold parseKey at h
  split at h
  · rename_i cs
    split at h
    · rename_i key' rest' hstring
      cases h
      simp only [List.cons_append, parseKey, parseString_extend hstring ext]
    · cases h
  · cases h

/-- What a longer text makes of a literal. -/
theorem literal_extend {s : String} {c : Char} {cs : List Char} (ext : List Char) {n : Nat}
    (hs : s.toList.length = n + 1) (h : s.toList.isPrefixOf (c :: cs)) :
    s.toList.isPrefixOf (c :: (cs ++ ext)) ∧ (cs ++ ext).drop n = cs.drop n ++ ext := by
  have hhead : s.toList <+: c :: cs := List.isPrefixOf_iff_prefix.mp h
  have hlen := hhead.length_le
  rw [hs, List.length_cons] at hlen
  refine ⟨?_, List.drop_append_of_le_length (by omega)⟩
  exact List.isPrefixOf_iff_prefix.mpr (hhead.trans (List.prefix_append (c :: cs) ext))

/-- A literal is told by its first character. -/
theorem not_literal {s : String} {c : Char} {cs : List Char} (hne : s.toList.head?.isSome)
    (h : s.toList.head? ≠ some c) : ¬ s.toList.isPrefixOf (c :: cs) := by
  intro hhead
  cases hs : s.toList with
  | nil => simp [hs] at hne
  | cons d ds =>
    rw [hs] at h hhead
    simp only [List.isPrefixOf, Bool.and_eq_true, beq_iff_eq] at hhead
    exact h (congrArg some hhead.1)

theorem exists_tail_of_head? {c : Char} {cs : List Char} (h : cs.head? = some c) :
    ∃ tail, cs = c :: tail := by
  cases cs with
  | nil => cases h
  | cons d cs =>
    cases h
    exact ⟨cs, rfl⟩

theorem head?_append_of_ne_nil {cs : List Char} (h : cs ≠ []) (ext : List Char) :
    (cs ++ ext).head? = cs.head? := by
  cases cs with
  | nil => exact absurd rfl h
  | cons c cs => rfl

theorem parseElems_nil (n : Nat) : parseElems n [] = none := by
  cases n <;> simp [parseElems]

theorem parseMembers_nil (n : Nat) : parseMembers n [] = none := by
  cases n <;> simp [parseMembers]

section Inversion

variable {n : Nat} {cs rest : List Char} {j : Json}

/-- How the elements after the first one are parsed. -/
theorem parseElems_cases {xs : List Json} (h : parseElems (n + 1) cs = some (xs, rest)) :
    (cs = ']' :: rest ∧ xs = []) ∨
      ∃ cs₀ x cs₁ xs', cs = ',' :: cs₀ ∧ parseValue n cs₀ = some (x, cs₁) ∧
        parseElems n cs₁ = some (xs', rest) ∧ xs = x :: xs' := by
  unfold parseElems at h
  split at h
  · cases h
    exact .inl ⟨rfl, rfl⟩
  · rename_i cs
    cases hvalue : parseValue n cs with
    | none => simp [hvalue] at h
    | some r =>
      obtain ⟨x, cs₁⟩ := r
      cases htail : parseElems n cs₁ with
      | none => simp [hvalue, htail] at h
      | some r =>
        obtain ⟨xs', cs₂⟩ := r
        simp only [hvalue, htail, Option.some.injEq, Prod.mk.injEq] at h
        obtain ⟨rfl, rfl⟩ := h
        exact .inr ⟨cs, x, cs₁, xs', rfl, hvalue, htail, rfl⟩
  · cases h

/-- How the members after the first one are parsed. -/
theorem parseMembers_cases {members : List (String × Json)}
    (h : parseMembers (n + 1) cs = some (members, rest)) :
    (cs = '}' :: rest ∧ members = []) ∨
      ∃ cs₀ key cs₁ x cs₂ members', cs = ',' :: cs₀ ∧ parseKey cs₀ = some (key, cs₁) ∧
        parseValue n cs₁ = some (x, cs₂) ∧ parseMembers n cs₂ = some (members', rest) ∧
          members = (key, x) :: members' := by
  unfold parseMembers at h
  split at h
  · cases h
    exact .inl ⟨rfl, rfl⟩
  · rename_i cs
    cases hkey : parseKey cs with
    | none => simp [hkey] at h
    | some r =>
      obtain ⟨key, cs₁⟩ := r
      cases hvalue : parseValue n cs₁ with
      | none => simp [hkey, hvalue] at h
      | some r =>
        obtain ⟨x, cs₂⟩ := r
        cases htail : parseMembers n cs₂ with
        | none => simp [hkey, hvalue, htail] at h
        | some r =>
          obtain ⟨members', cs₃⟩ := r
          simp only [hkey, hvalue, htail, Option.some.injEq, Prod.mk.injEq] at h
          obtain ⟨rfl, rfl⟩ := h
          exact .inr ⟨cs, key, cs₁, x, cs₂, members', rfl, hkey, hvalue, htail, rfl⟩
  · cases h

/-- How an array is parsed. -/
theorem parseValue_arr_cases (h : parseValue (n + 1) ('[' :: cs) = some (j, rest)) :
    (cs = ']' :: rest ∧ j = .arr []) ∨
      cs.head? ≠ some ']' ∧ ∃ x cs₁ xs, parseValue n cs = some (x, cs₁) ∧
        parseElems n cs₁ = some (xs, rest) ∧ j = .arr (x :: xs) := by
  rw [parseValue, if_pos rfl] at h
  by_cases hclose : cs.head? = some ']'
  · obtain ⟨cs, rfl⟩ := exists_tail_of_head? hclose
    rw [if_pos hclose] at h
    cases h
    exact .inl ⟨rfl, rfl⟩
  · rw [if_neg hclose] at h
    cases hvalue : parseValue n cs with
    | none => simp [hvalue] at h
    | some r =>
      obtain ⟨x, cs₁⟩ := r
      cases htail : parseElems n cs₁ with
      | none => simp [hvalue, htail] at h
      | some r =>
        obtain ⟨xs, cs₂⟩ := r
        simp only [hvalue, htail, Option.some.injEq, Prod.mk.injEq] at h
        obtain ⟨rfl, rfl⟩ := h
        exact .inr ⟨hclose, x, cs₁, xs, rfl, htail, rfl⟩

/-- How an object is parsed. -/
theorem parseValue_obj_cases (h : parseValue (n + 1) ('{' :: cs) = some (j, rest)) :
    (cs = '}' :: rest ∧ j = .obj []) ∨
      cs.head? ≠ some '}' ∧ ∃ key cs₁ x cs₂ members, parseKey cs = some (key, cs₁) ∧
        parseValue n cs₁ = some (x, cs₂) ∧ parseMembers n cs₂ = some (members, rest) ∧
          j = .obj ((key, x) :: members) := by
  rw [parseValue, if_neg (by decide), if_pos rfl] at h
  by_cases hclose : cs.head? = some '}'
  · obtain ⟨cs, rfl⟩ := exists_tail_of_head? hclose
    rw [if_pos hclose] at h
    cases h
    exact .inl ⟨rfl, rfl⟩
  · rw [if_neg hclose] at h
    cases hkey : parseKey cs with
    | none => simp [hkey] at h
    | some r =>
      obtain ⟨key, cs₁⟩ := r
      cases hvalue : parseValue n cs₁ with
      | none => simp [hkey, hvalue] at h
      | some r =>
        obtain ⟨x, cs₂⟩ := r
        cases htail : parseMembers n cs₂ with
        | none => simp [hkey, hvalue, htail] at h
        | some r =>
          obtain ⟨members, cs₃⟩ := r
          simp only [hkey, hvalue, htail, Option.some.injEq, Prod.mk.injEq] at h
          obtain ⟨rfl, rfl⟩ := h
          exact .inr ⟨hclose, key, cs₁, x, cs₂, members, rfl, hvalue, htail, rfl⟩

end Inversion

/-- A value that is no array and no object, and does not end with the text. -/
theorem parseValue_scalar_extend {n m : Nat} {c : Char} {cs rest : List Char} {j : Json}
    (harr : c ≠ '[') (hobj : c ≠ '{') (h : parseValue (n + 1) (c :: cs) = some (j, rest))
    (hrest : rest ≠ []) (ext : List Char) :
    parseValue (m + 1) (c :: cs ++ ext) = some (j, rest ++ ext) := by
  rw [parseValue, if_neg harr, if_neg hobj] at h
  rw [List.cons_append, parseValue, if_neg harr, if_neg hobj]
  by_cases hstr : c = '"'
  · rw [if_pos hstr] at h ⊢
    obtain ⟨⟨s, cs'⟩, hstring, heq⟩ := Option.map_eq_some_iff.mp h
    cases heq
    rw [parseString_extend hstring ext]
    rfl
  rw [if_neg hstr] at h ⊢
  by_cases hneg : c = '-'
  · rw [if_pos hneg] at h ⊢
    obtain ⟨⟨k, cs'⟩, hnat, heq⟩ := Option.map_eq_some_iff.mp h
    cases heq
    rw [parseNat_extend hnat hrest ext]
    rfl
  rw [if_neg hneg] at h ⊢
  by_cases hdigit : c.isDigit
  · rw [if_pos hdigit] at h ⊢
    obtain ⟨⟨k, cs'⟩, hnat, heq⟩ := Option.map_eq_some_iff.mp h
    cases heq
    rw [← List.cons_append, parseNat_extend hnat hrest ext]
    rfl
  rw [if_neg hdigit] at h ⊢
  by_cases hnull : "null".toList.isPrefixOf (c :: cs)
  · obtain ⟨hhead, hdrop⟩ := @literal_extend "null" c cs ext 3 rfl hnull
    rw [if_pos hnull] at h
    cases h
    rw [if_pos hhead, hdrop]
  rw [if_neg hnull] at h
  by_cases htrue : "true".toList.isPrefixOf (c :: cs)
  · obtain ⟨hhead, hdrop⟩ := @literal_extend "true" c cs ext 3 rfl htrue
    have hc : "true".toList.head? = some c := by
      by_contra hne
      exact not_literal rfl hne htrue
    cases hc
    rw [if_pos htrue] at h
    cases h
    rw [if_neg (not_literal rfl (by decide)), if_pos hhead, hdrop]
  rw [if_neg htrue] at h
  by_cases hfalse : "false".toList.isPrefixOf (c :: cs)
  · obtain ⟨hhead, hdrop⟩ := @literal_extend "false" c cs ext 4 rfl hfalse
    have hc : "false".toList.head? = some c := by
      by_contra hne
      exact not_literal rfl hne hfalse
    cases hc
    rw [if_pos hfalse] at h
    cases h
    rw [if_neg (not_literal rfl (by decide)), if_neg (not_literal rfl (by decide)),
      if_pos hhead, hdrop]
  rw [if_neg hfalse] at h
  cases h

/-- What is parsed with this bound out of the beginning of a text is parsed out of it with any
larger bound. A number that ends with the text may go on in the longer one, so something must
follow a value that does not close itself. -/
structure Extends (n : Nat) : Prop where
  value : ∀ {m cs j rest} (ext : List Char), n ≤ m → parseValue n cs = some (j, rest) →
    (rest ≠ [] ∨ cs.head? = some '{') → parseValue m (cs ++ ext) = some (j, rest ++ ext)
  elems : ∀ {m cs xs rest} (ext : List Char), n ≤ m → parseElems n cs = some (xs, rest) →
    parseElems m (cs ++ ext) = some (xs, rest ++ ext)
  members : ∀ {m cs members rest} (ext : List Char), n ≤ m →
    parseMembers n cs = some (members, rest) →
      parseMembers m (cs ++ ext) = some (members, rest ++ ext)

namespace Extends

variable {n m : Nat} {cs rest : List Char} {j : Json}

/-- A value in front of more elements does not end with the text. -/
theorem value_elems (h : Extends n) (ext : List Char) (hm : n ≤ m) {cs₁ : List Char}
    {xs : List Json} (hvalue : parseValue n cs = some (j, cs₁))
    (helems : parseElems n cs₁ = some (xs, rest)) :
    parseValue m (cs ++ ext) = some (j, cs₁ ++ ext) := by
  refine h.value ext hm hvalue (.inl ?_)
  rintro rfl
  rw [parseElems_nil] at helems
  cases helems

/-- Nor does one in front of more members. -/
theorem value_members (h : Extends n) (ext : List Char) (hm : n ≤ m) {cs₁ : List Char}
    {members : List (String × Json)} (hvalue : parseValue n cs = some (j, cs₁))
    (hmembers : parseMembers n cs₁ = some (members, rest)) :
    parseValue m (cs ++ ext) = some (j, cs₁ ++ ext) := by
  refine h.value ext hm hvalue (.inl ?_)
  rintro rfl
  rw [parseMembers_nil] at hmembers
  cases hmembers

theorem elems_succ (h : Extends n) (ext : List Char) (hm : n ≤ m) {xs : List Json}
    (hparse : parseElems (n + 1) cs = some (xs, rest)) :
    parseElems (m + 1) (cs ++ ext) = some (xs, rest ++ ext) := by
  rcases parseElems_cases hparse with ⟨rfl, rfl⟩ | ⟨cs₀, x, cs₁, xs', rfl, hvalue, htail, rfl⟩
  · rfl
  · simp only [List.cons_append, parseElems, h.value_elems ext hm hvalue htail,
      h.elems ext hm htail]

theorem members_succ (h : Extends n) (ext : List Char) (hm : n ≤ m)
    {members : List (String × Json)} (hparse : parseMembers (n + 1) cs = some (members, rest)) :
    parseMembers (m + 1) (cs ++ ext) = some (members, rest ++ ext) := by
  rcases parseMembers_cases hparse with
    ⟨rfl, rfl⟩ | ⟨cs₀, key, cs₁, x, cs₂, members', rfl, hkey, hvalue, htail, rfl⟩
  · rfl
  · simp only [List.cons_append, parseMembers, parseKey_extend hkey ext,
      h.value_members ext hm hvalue htail, h.members ext hm htail]

theorem arr_succ (h : Extends n) (ext : List Char) (hm : n ≤ m)
    (hparse : parseValue (n + 1) ('[' :: cs) = some (j, rest)) :
    parseValue (m + 1) ('[' :: cs ++ ext) = some (j, rest ++ ext) := by
  rcases parseValue_arr_cases hparse with
    ⟨rfl, rfl⟩ | ⟨hclose, x, cs₁, xs, hvalue, htail, rfl⟩
  · rfl
  · have hne : cs ≠ [] := by
      rintro rfl
      cases n <;> simp [parseValue] at hvalue
    rw [List.cons_append, parseValue, if_pos rfl, head?_append_of_ne_nil hne, if_neg hclose]
    simp only [h.value_elems ext hm hvalue htail, h.elems ext hm htail]

theorem obj_succ (h : Extends n) (ext : List Char) (hm : n ≤ m)
    (hparse : parseValue (n + 1) ('{' :: cs) = some (j, rest)) :
    parseValue (m + 1) ('{' :: cs ++ ext) = some (j, rest ++ ext) := by
  rcases parseValue_obj_cases hparse with
    ⟨rfl, rfl⟩ | ⟨hclose, key, cs₁, x, cs₂, members, hkey, hvalue, htail, rfl⟩
  · rfl
  · have hne : cs ≠ [] := by
      rintro rfl
      cases hkey
    rw [List.cons_append, parseValue, if_neg (by decide), if_pos rfl,
      head?_append_of_ne_nil hne, if_neg hclose]
    simp only [parseKey_extend hkey ext, h.value_members ext hm hvalue htail,
      h.members ext hm htail]

theorem value_succ (h : Extends n) (ext : List Char) (hm : n ≤ m)
    (hparse : parseValue (n + 1) cs = some (j, rest)) (hend : rest ≠ [] ∨ cs.head? = some '{') :
    parseValue (m + 1) (cs ++ ext) = some (j, rest ++ ext) := by
  cases cs with
  | nil =>
    rw [parseValue] at hparse
    cases hparse
  | cons c cs =>
    by_cases harr : c = '['
    · subst harr
      exact h.arr_succ ext hm hparse
    by_cases hobj : c = '{'
    · subst hobj
      exact h.obj_succ ext hm hparse
    have hrest := hend.resolve_right fun hhead => hobj (Option.some.inj hhead)
    exact parseValue_scalar_extend harr hobj hparse hrest ext

end Extends

/-- **Longer texts**, by induction on the bound. -/
theorem parse_extend (n : Nat) : Extends n := by
  induction n with
  | zero =>
    refine ⟨fun ext _ h _ => ?_, fun ext _ h => ?_, fun ext _ h => ?_⟩
    · rw [parseValue] at h
      cases h
    · rw [parseElems] at h
      cases h
    · rw [parseMembers] at h
      cases h
  | succ n ih =>
    refine ⟨fun {m} _ _ _ ext hm h hend => ?_, fun {m} _ _ _ ext hm h => ?_,
      fun {m} _ _ _ ext hm h => ?_⟩
    all_goals obtain ⟨m, rfl⟩ : ∃ k, m = k + 1 := ⟨m - 1, by omega⟩
    · exact ih.value_succ ext (Nat.le_of_succ_le_succ hm) h hend
    · exact ih.elems_succ ext (Nat.le_of_succ_le_succ hm) h
    · exact ih.members_succ ext (Nat.le_of_succ_le_succ hm) h

/-- **A text of an object that is cut off is no text.** -/
theorem parse_take {members : List (String × Json)} (h : Plain (.obj members)) {n : Nat}
    (hn : n < (text (.obj members)).length) : parse ((text (.obj members)).take n) = none := by
  unfold parse
  cases hvalue : parseValue ((text (.obj members)).take n).length
      ((text (.obj members)).take n) with
  | none => rfl
  | some r =>
    obtain ⟨j, rest⟩ := r
    have hopen : (text (.obj members)).head? = some '{' := by
      cases members with
      | nil => rfl
      | cons m members => rfl
    have hhead : ((text (.obj members)).take n).head? = some '{' := by
      cases n with
      | zero => simp [parseValue] at hvalue
      | succ n => rw [List.head?_take, if_neg (by omega), hopen]
    -- Read out of the whole text, the value would leave the part that was cut off.
    have hwhole := @(parse_extend _).value (text (.obj members)).length _ _ _
      ((text (.obj members)).drop n) (by rw [List.length_take]; omega) hvalue (Or.inr hhead)
    have hread := (parse_text (text (.obj members)).length).value (.obj members) [] h (by simp [NoDigit])
      (Nat.le_refl _)
    rw [List.take_append_drop] at hwhole
    rw [List.append_nil, hwhole] at hread
    have hnil : rest ++ (text (.obj members)).drop n = [] := congrArg Prod.snd (Option.some.inj hread)
    have hlen : ((text (.obj members)).drop n).length = 0 := by
      rw [(List.append_eq_nil_iff.mp hnil).2]
      rfl
    rw [List.length_drop] at hlen
    omega

/-! ## Bytes -/

/-- One byte per character; the text of a plain value is ASCII. -/
def toBytes (cs : List Char) : List UInt8 :=
  cs.map fun c => UInt8.ofNat c.toNat

def ofBytes (bytes : List UInt8) : List Char :=
  bytes.map fun b => Char.ofNat b.toNat

/-- Every character is one byte of ASCII. -/
def Ascii (cs : List Char) : Prop := ∀ c ∈ cs, c.toNat < 128

instance (cs : List Char) : Decidable (Ascii cs) :=
  List.decidableBAll _ _

theorem ofBytes_toBytes {cs : List Char} (h : Ascii cs) : ofBytes (toBytes cs) = cs := by
  rw [ofBytes, toBytes, List.map_map]
  conv_rhs => rw [← List.map_id cs]
  apply List.map_congr_left
  intro c hc
  have hlt := h c hc
  show Char.ofNat (UInt8.ofNat c.toNat).toNat = c
  rw [UInt8.toNat_ofNat', Nat.mod_eq_of_lt (by omega), Char.ofNat_toNat]

theorem ascii_append {cs ds : List Char} (hc : Ascii cs) (hd : Ascii ds) : Ascii (cs ++ ds) := by
  intro c h
  rcases List.mem_append.mp h with h | h
  · exact hc c h
  · exact hd c h

theorem ascii_cons {c : Char} {cs : List Char} (hc : c.toNat < 128) (hcs : Ascii cs) :
    Ascii (c :: cs) := by
  intro d h
  rcases List.mem_cons.mp h with rfl | h
  · exact hc
  · exact hcs d h

theorem ascii_toDigits (n : Nat) : Ascii (Nat.toDigits 10 n) := by
  intro c hc
  have hdigit := isDigit_of_mem_toDigits hc
  simp only [Char.isDigit, Bool.and_eq_true, decide_eq_true_eq, UInt32.le_iff_toNat_le] at hdigit
  have hle : c.toNat ≤ 57 := hdigit.2
  omega

theorem ascii_intText (i : Int) : Ascii (intText i) := by
  cases i with
  | ofNat n => exact ascii_toDigits n
  | negSucc n => exact ascii_cons (by decide) (ascii_toDigits (n + 1))

theorem ascii_strText {s : String} (hs : PlainString s) : Ascii (strText s) :=
  ascii_cons (by decide) (ascii_append (fun c hc => (hs c hc).2.2) (by simp [Ascii]))

mutual
theorem ascii_text : ∀ j : Json, Plain j → Ascii (text j)
  | .null, _ => by rw [text]; decide
  | .bool true, _ => by rw [text]; decide
  | .bool false, _ => by rw [text]; decide
  | .int i, _ => by rw [text]; exact ascii_intText i
  | .float _, h => by rw [Plain] at h; exact h.elim
  | .str s, h => by
    rw [Plain] at h
    rw [text]
    exact ascii_strText h
  | .arr [], _ => by rw [text]; decide
  | .arr (x :: xs), h => by
    rw [Plain, PlainElems] at h
    rw [text]
    exact ascii_cons (by decide) (ascii_append (ascii_text x h.1) (ascii_textElems xs h.2))
  | .obj [], _ => by rw [text]; decide
  | .obj ((key, x) :: members), h => by
    rw [Plain, PlainMembers] at h
    rw [text]
    exact ascii_cons (by decide) (ascii_append (ascii_strText h.1) (ascii_cons (by decide)
      (ascii_append (ascii_text x h.2.1) (ascii_textMembers members h.2.2))))

theorem ascii_textElems : ∀ xs : List Json, PlainElems xs → Ascii (textElems xs)
  | [], _ => by rw [textElems]; decide
  | x :: xs, h => by
    rw [PlainElems] at h
    rw [textElems]
    exact ascii_cons (by decide) (ascii_append (ascii_text x h.1) (ascii_textElems xs h.2))

theorem ascii_textMembers :
    ∀ members : List (String × Json), PlainMembers members → Ascii (textMembers members)
  | [], _ => by rw [textMembers]; decide
  | (key, x) :: members, h => by
    rw [PlainMembers] at h
    rw [textMembers]
    exact ascii_cons (by decide) (ascii_append (ascii_strText h.1) (ascii_cons (by decide)
      (ascii_append (ascii_text x h.2.1) (ascii_textMembers members h.2.2))))
end

/-- **Round trip in bytes**, with the newline a stream appends. -/
theorem parse_ofBytes {j : Json} (h : Plain j) :
    parse (ofBytes (toBytes (text j) ++ [10])) = some j := by
  have happend : toBytes (text j) ++ [10] = toBytes (text j ++ ['\n']) := by
    simp [toBytes]
  rw [happend, ofBytes_toBytes (ascii_append (ascii_text j h) (by simp [Ascii]))]
  exact parse_text_newline h

/-- The newline may be missing. -/
theorem parse_ofBytes_bare {j : Json} (h : Plain j) : parse (ofBytes (toBytes (text j))) = some j := by
  have hvalue := (parse_text (text j).length).value j [] h (by simp [NoDigit]) (Nat.le_refl _)
  rw [List.append_nil] at hvalue
  rw [ofBytes_toBytes (ascii_text j h), parse, hvalue]
  rfl

/-- Nothing else may. -/
theorem parse_ofBytes_take {members : List (String × Json)} (h : Plain (.obj members)) {n : Nat}
    (hn : n < (toBytes (text (.obj members))).length) :
    parse (ofBytes ((toBytes (text (.obj members))).take n)) = none := by
  have htake : (toBytes (text (.obj members))).take n = toBytes ((text (.obj members)).take n) := by
    rw [toBytes, toBytes, List.map_take]
  have hascii : Ascii ((text (.obj members)).take n) :=
    fun c hc => ascii_text _ h c (List.mem_of_mem_take hc)
  rw [htake, ofBytes_toBytes hascii]
  exact parse_take h (by simpa [toBytes] using hn)

end Json
