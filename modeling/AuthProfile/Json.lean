import Mathlib.Data.Nat.Digits.Lemmas

set_option autoImplicit false

-- JSON text as Python's json module writes and reads it: ASCII only, ", " and ": "
-- between the parts. Numbers are integers; a text with a float or with a lone
-- surrogate escape is refused, since neither has a value here.
inductive Json where
  | null
  | bool (value : Bool)
  | num (value : Int)
  | str (text : String)
  | arr (items : List Json)
  | obj (fields : List (String × Json))

namespace Json

def hexDigit (d : Nat) : Char := if d < 10 then Char.ofNat (48 + d) else Char.ofNat (87 + d)

def hex4 (n : Nat) : List Char :=
  [hexDigit (n / 4096 % 16), hexDigit (n / 256 % 16), hexDigit (n / 16 % 16), hexDigit (n % 16)]

def escapeUnicode (n : Nat) : List Char :=
  if n < 65536 then '\\' :: 'u' :: hex4 n
  else '\\' :: 'u' :: hex4 (55296 + (n - 65536) / 1024) ++ '\\' :: 'u' :: hex4 (56320 + (n - 65536) % 1024)

def escapeChar (c : Char) : List Char :=
  if c = '"' then ['\\', '"']
  else if c = '\\' then ['\\', '\\']
  else if c = '\n' then ['\\', 'n']
  else if c = '\r' then ['\\', 'r']
  else if c = '\t' then ['\\', 't']
  else if c = '\x08' then ['\\', 'b']
  else if c = '\x0c' then ['\\', 'f']
  else if 32 ≤ c.toNat ∧ c.toNat ≤ 126 then [c]
  else escapeUnicode c.toNat

def quoted (text : String) : List Char := '"' :: text.toList.flatMap escapeChar ++ ['"']

def decimal (n : Nat) : List Char :=
  if n = 0 then ['0'] else (Nat.digits 10 n).reverse.map fun d => Char.ofNat (48 + d)

def integer : Int → List Char
  | .ofNat n => decimal n
  | .negSucc n => '-' :: decimal (n + 1)

mutual
def print : Json → List Char
  | .null => ['n', 'u', 'l', 'l']
  | .bool true => ['t', 'r', 'u', 'e']
  | .bool false => ['f', 'a', 'l', 's', 'e']
  | .num value => integer value
  | .str text => quoted text
  | .arr [] => ['[', ']']
  | .arr (first :: rest) => '[' :: print first ++ printItems rest
  | .obj [] => ['{', '}']
  | .obj ((name, first) :: rest) => '{' :: quoted name ++ ':' :: ' ' :: print first ++ printFields rest
def printItems : List Json → List Char
  | [] => [']']
  | item :: rest => ',' :: ' ' :: print item ++ printItems rest
def printFields : List (String × Json) → List Char
  | [] => ['}']
  | (name, value) :: rest => ',' :: ' ' :: quoted name ++ ':' :: ' ' :: print value ++ printFields rest
end

def dumps (value : Json) : String := String.ofList (print value)

def hexValue (c : Char) : Option Nat :=
  if 48 ≤ c.toNat ∧ c.toNat ≤ 57 then some (c.toNat - 48)
  else if 97 ≤ c.toNat ∧ c.toNat ≤ 102 then some (c.toNat - 87)
  else if 65 ≤ c.toNat ∧ c.toNat ≤ 70 then some (c.toNat - 55)
  else none

def hex4Value (a b c d : Char) : Option Nat :=
  match hexValue a, hexValue b, hexValue c, hexValue d with
  | some w, some x, some y, some z => some (w * 4096 + x * 256 + y * 16 + z)
  | _, _, _, _ => none

def simpleEscape (c : Char) : Option Char :=
  if c = '"' then some '"'
  else if c = '\\' then some '\\'
  else if c = '/' then some '/'
  else if c = 'n' then some '\n'
  else if c = 'r' then some '\r'
  else if c = 't' then some '\t'
  else if c = 'b' then some '\x08'
  else if c = 'f' then some '\x0c'
  else none

def lowSurrogate : List Char → Option (Nat × List Char)
  | '\\' :: 'u' :: a :: b :: c :: d :: rest =>
      match hex4Value a b c d with
      | some low => if 56320 ≤ low ∧ low ≤ 57343 then some (low, rest) else none
      | none => none
  | _ => none

def unescape : List Char → Option (Char × List Char)
  | 'u' :: a :: b :: c :: d :: rest =>
      match hex4Value a b c d with
      | none => none
      | some n =>
          if n < 55296 ∨ 57343 < n then some (Char.ofNat n, rest)
          else if n < 56320 then
            (lowSurrogate rest).map fun low =>
              (Char.ofNat (65536 + (n - 55296) * 1024 + (low.1 - 56320)), low.2)
          else none
  | c :: rest => (simpleEscape c).map fun decoded => (decoded, rest)
  | [] => none

def stringBody : Nat → List Char → Option (List Char × List Char)
  | 0, _ => none
  | _ + 1, [] => none
  | fuel + 1, c :: rest =>
      if c = '"' then some ([], rest)
      else if c = '\\' then
        match unescape rest with
        | some (decoded, later) => (stringBody fuel later).map fun body => (decoded :: body.1, body.2)
        | none => none
      else if c.toNat < 32 then none
      else (stringBody fuel rest).map fun body => (c :: body.1, body.2)

def isDigit (c : Char) : Bool := decide (48 ≤ c.toNat ∧ c.toNat ≤ 57)

def digitsValue (digits : List Char) : Nat := digits.foldl (fun n c => n * 10 + (c.toNat - 48)) 0

-- A run of digits without a leading zero and without a fraction or an exponent.
def natural (text : List Char) : Option (Nat × List Char) :=
  let digits := text.takeWhile isDigit
  let rest := text.dropWhile isDigit
  if digits = [] then none
  else if digits.head? = some '0' ∧ digits.length ≠ 1 then none
  else if rest.head? = some '.' ∨ rest.head? = some 'e' ∨ rest.head? = some 'E' then none
  else some (digitsValue digits, rest)

def isSpace (c : Char) : Bool := c = ' ' || c = '\t' || c = '\n' || c = '\r'

def skip (text : List Char) : List Char := text.dropWhile isSpace

mutual
def value : Nat → List Char → Option (Json × List Char)
  | 0, _ => none
  | fuel + 1, text =>
      match skip text with
      | 'n' :: 'u' :: 'l' :: 'l' :: rest => some (.null, rest)
      | 't' :: 'r' :: 'u' :: 'e' :: rest => some (.bool true, rest)
      | 'f' :: 'a' :: 'l' :: 's' :: 'e' :: rest => some (.bool false, rest)
      | '"' :: rest => (stringBody rest.length rest).map fun body => (.str (String.ofList body.1), body.2)
      | '[' :: rest =>
          match skip rest with
          | ']' :: later => some (.arr [], later)
          | _ => (items fuel rest).map fun parsed => (.arr parsed.1, parsed.2)
      | '{' :: rest =>
          match skip rest with
          | '}' :: later => some (.obj [], later)
          | _ => (members fuel rest).map fun parsed => (.obj parsed.1, parsed.2)
      | '-' :: rest => (natural rest).map fun parsed => (.num (-(parsed.1 : Int)), parsed.2)
      | other => (natural other).map fun parsed => (.num parsed.1, parsed.2)
def items : Nat → List Char → Option (List Json × List Char)
  | 0, _ => none
  | fuel + 1, text =>
      match value fuel text with
      | none => none
      | some (first, later) =>
          match skip later with
          | ']' :: rest => some ([first], rest)
          | ',' :: rest => (items fuel rest).map fun parsed => (first :: parsed.1, parsed.2)
          | _ => none
def members : Nat → List Char → Option (List (String × Json) × List Char)
  | 0, _ => none
  | fuel + 1, text =>
      match skip text with
      | '"' :: quotedRest =>
          match stringBody quotedRest.length quotedRest with
          | none => none
          | some (name, afterName) =>
              match skip afterName with
              | ':' :: afterColon =>
                  match value fuel afterColon with
                  | none => none
                  | some (first, later) =>
                      match skip later with
                      | '}' :: rest => some ([(String.ofList name, first)], rest)
                      | ',' :: rest =>
                          (members fuel rest).map fun parsed => ((String.ofList name, first) :: parsed.1, parsed.2)
                      | _ => none
              | _ => none
      | _ => none
end

def loads (text : String) : Option Json :=
  match value (text.toList.length + 1) text.toList with
  | some (parsed, rest) => if skip rest = [] then some parsed else none
  | none => none

-- A repeated key keeps its last value, as in a dict.
def get (name : String) : Json → Option Json
  | .obj fields => (fields.reverse.find? fun field => field.1 = name).map Prod.snd
  | _ => none

def text : Json → Option String
  | .str text => some text
  | _ => none

theorem hex_value_digit : ∀ d, d < 16 → hexValue (hexDigit d) = some d := by decide

theorem hex4_value (n : Nat) (bound : n < 65536) :
    hex4Value (hexDigit (n / 4096 % 16)) (hexDigit (n / 256 % 16)) (hexDigit (n / 16 % 16)) (hexDigit (n % 16)) =
      some n := by
  simp only [hex4Value, hex_value_digit _ (Nat.mod_lt _ (by decide : 0 < 16)), Option.some.injEq]
  omega

theorem char_scalar (c : Char) : c.toNat < 55296 ∨ (57343 < c.toNat ∧ c.toNat < 1114112) := c.valid

theorem unescape_basic (c : Char) (rest : List Char) (small : c.toNat < 65536) :
    unescape ('u' :: hex4 c.toNat ++ rest) = some (c, rest) := by
  have scalar : c.toNat < 55296 ∨ 57343 < c.toNat := (char_scalar c).imp_right And.left
  simp only [hex4, List.cons_append, List.nil_append, unescape, hex4_value c.toNat small, if_pos scalar,
    Char.ofNat_toNat]

theorem unescape_pair (c : Char) (rest : List Char) (large : ¬ c.toNat < 65536) :
    unescape ('u' :: hex4 (55296 + (c.toNat - 65536) / 1024) ++
      '\\' :: 'u' :: hex4 (56320 + (c.toNat - 65536) % 1024) ++ rest) = some (c, rest) := by
  have limit : c.toNat < 1114112 := by
    rcases char_scalar c with low | high
    · omega
    · exact high.2
  have highBound : 55296 + (c.toNat - 65536) / 1024 < 56320 := by omega
  have lowBound : 56320 + (c.toNat - 65536) % 1024 ≤ 57343 := by omega
  have notScalar : ¬ (55296 + (c.toNat - 65536) / 1024 < 55296 ∨ 57343 < 55296 + (c.toNat - 65536) / 1024) := by
    omega
  have whole : 65536 + (55296 + (c.toNat - 65536) / 1024 - 55296) * 1024 +
      (56320 + (c.toNat - 65536) % 1024 - 56320) = c.toNat := by omega
  have highHalf := hex4_value (55296 + (c.toNat - 65536) / 1024) (by omega)
  have lowHalf := hex4_value (56320 + (c.toNat - 65536) % 1024) (by omega)
  have inRange : 56320 ≤ 56320 + (c.toNat - 65536) % 1024 ∧ 56320 + (c.toNat - 65536) % 1024 ≤ 57343 := by omega
  simp only [hex4, List.cons_append, List.nil_append, unescape, highHalf, if_neg notScalar, if_pos highBound,
    lowSurrogate, lowHalf, if_pos inRange, Option.map_some, whole, Char.ofNat_toNat]

theorem string_body_plain (fuel : Nat) (c : Char) (rest : List Char) (printable : 32 ≤ c.toNat)
    (notQuote : c ≠ '"') (notSlash : c ≠ '\\') :
    stringBody (fuel + 1) (c :: rest) = (stringBody fuel rest).map fun body => (c :: body.1, body.2) := by
  simp only [stringBody, if_neg notQuote, if_neg notSlash, if_neg (Nat.not_lt.mpr printable)]

theorem string_body_escaped (fuel : Nat) (c : Char) (code rest : List Char)
    (decoded : unescape (code ++ rest) = some (c, rest)) :
    stringBody (fuel + 1) ('\\' :: code ++ rest) =
      (stringBody fuel rest).map fun body => (c :: body.1, body.2) := by
  simp only [List.cons_append, stringBody, if_neg (by decide : ¬ '\\' = '"'), if_true, decoded]

theorem string_body_char (fuel : Nat) (c : Char) (rest : List Char) :
    stringBody (fuel + 1) (escapeChar c ++ rest) =
      (stringBody fuel rest).map fun body => (c :: body.1, body.2) := by
  unfold escapeChar escapeUnicode
  split_ifs with quote slash newline carriage tab back form printable small
  · exact string_body_escaped fuel c ['"'] rest (by rw [quote]; rfl)
  · exact string_body_escaped fuel c ['\\'] rest (by rw [slash]; rfl)
  · exact string_body_escaped fuel c ['n'] rest (by rw [newline]; rfl)
  · exact string_body_escaped fuel c ['r'] rest (by rw [carriage]; rfl)
  · exact string_body_escaped fuel c ['t'] rest (by rw [tab]; rfl)
  · exact string_body_escaped fuel c ['b'] rest (by rw [back]; rfl)
  · exact string_body_escaped fuel c ['f'] rest (by rw [form]; rfl)
  · exact string_body_plain fuel c rest printable.1 quote slash
  · exact string_body_escaped fuel c ('u' :: hex4 c.toNat) rest (unescape_basic c rest small)
  · exact string_body_escaped fuel c _ rest (unescape_pair c rest small)

theorem string_body_quoted (body : List Char) (rest : List Char) (fuel : Nat) (enough : body.length < fuel) :
    stringBody fuel (body.flatMap escapeChar ++ '"' :: rest) = some (body, rest) := by
  induction body generalizing fuel with
  | nil =>
      obtain ⟨fuel, rfl⟩ := Nat.exists_eq_add_one.mpr enough
      rfl
  | cons c body ih =>
      obtain ⟨fuel, rfl⟩ := Nat.exists_eq_add_one.mpr (Nat.zero_lt_of_lt enough)
      rw [List.flatMap_cons, List.append_assoc, string_body_char, ih fuel (Nat.lt_of_succ_lt_succ enough)]
      rfl

theorem digit_code : ∀ d, d < 10 → (Char.ofNat (48 + d)).toNat = 48 + d := by decide

theorem digits_value_of_digits (digits : List Nat) (small : ∀ d ∈ digits, d < 10) :
    digitsValue (digits.reverse.map fun d => Char.ofNat (48 + d)) = Nat.ofDigits 10 digits := by
  induction digits with
  | nil => rfl
  | cons d digits ih =>
      have tail := ih fun e member => small e (List.mem_cons_of_mem d member)
      have head := digit_code d (small d List.mem_cons_self)
      simp only [digitsValue] at tail
      simp only [digitsValue, List.reverse_cons, List.map_append, List.map_cons, List.map_nil, List.foldl_append,
        tail, List.foldl_cons, List.foldl_nil, head, Nat.ofDigits_cons]
      omega

theorem digits_value_decimal (n : Nat) : digitsValue (decimal n) = n := by
  by_cases zero : n = 0
  · subst zero
    rfl
  · rw [decimal, if_neg zero, digits_value_of_digits _ fun d member => Nat.digits_lt_base (by decide) member,
      Nat.ofDigits_digits]

theorem decimal_digits (n : Nat) : ∀ c ∈ decimal n, isDigit c = true := by
  intro c member
  unfold decimal at member
  split_ifs at member with zero
  · cases List.mem_singleton.mp member
    rfl
  · obtain ⟨d, digit, rfl⟩ := List.mem_map.mp member
    have small : d < 10 := Nat.digits_lt_base (by decide) (List.mem_reverse.mp digit)
    simp only [isDigit, digit_code d small, decide_eq_true_eq]
    omega

theorem decimal_ne_nil (n : Nat) : decimal n ≠ [] := by
  unfold decimal
  split_ifs with zero
  · simp
  · simpa using Nat.digits_ne_nil_iff_ne_zero.mpr zero

theorem decimal_no_leading_zero (n : Nat) : ¬ ((decimal n).head? = some '0' ∧ (decimal n).length ≠ 1) := by
  rintro ⟨leading, long⟩
  by_cases zero : n = 0
  · subst zero
    exact long rfl
  · rw [decimal, if_neg zero, List.head?_map, List.head?_reverse] at leading
    have nonempty : Nat.digits 10 n ≠ [] := Nat.digits_ne_nil_iff_ne_zero.mpr zero
    rw [List.getLast?_eq_some_getLast nonempty, Option.map_some, Option.some.injEq] at leading
    have top := Nat.getLast_digit_ne_zero 10 zero
    have small : (Nat.digits 10 n).getLast nonempty < 10 :=
      Nat.digits_lt_base (by decide) (List.getLast_mem nonempty)
    have code := digit_code _ small
    rw [leading] at code
    have zeroCode : '0'.toNat = 48 := rfl
    omega

-- What may follow a number without becoming part of it.
def NumberEnd (rest : List Char) : Prop :=
  ∀ c, rest.head? = some c → isDigit c = false ∧ c ≠ '.' ∧ c ≠ 'e' ∧ c ≠ 'E'

theorem number_end_cons (c : Char) (rest : List Char) (stops : isDigit c = false ∧ c ≠ '.' ∧ c ≠ 'e' ∧ c ≠ 'E') :
    NumberEnd (c :: rest) := by
  intro d head
  cases head
  exact stops

theorem natural_decimal (n : Nat) (rest : List Char) (stops : NumberEnd rest) :
    natural (decimal n ++ rest) = some (n, rest) := by
  have restTake : rest.takeWhile isDigit = [] := by
    cases rest with
    | nil => rfl
    | cons c rest => simp [(stops c rfl).1]
  have restDrop : rest.dropWhile isDigit = rest := by
    cases rest with
    | nil => rfl
    | cons c rest => simp [(stops c rfl).1]
  have taken : (decimal n ++ rest).takeWhile isDigit = decimal n := by
    rw [List.takeWhile_append_of_pos (decimal_digits n), restTake, List.append_nil]
  have dropped : (decimal n ++ rest).dropWhile isDigit = rest := by
    rw [List.dropWhile_append_of_pos (decimal_digits n), restDrop]
  have plain : ¬ (rest.head? = some '.' ∨ rest.head? = some 'e' ∨ rest.head? = some 'E') := by
    rintro (dot | small | large)
    · exact (stops _ dot).2.1 rfl
    · exact (stops _ small).2.2.1 rfl
    · exact (stops _ large).2.2.2 rfl
  simp only [natural, taken, dropped, if_neg (decimal_ne_nil n), if_neg (decimal_no_leading_zero n), if_neg plain,
    digits_value_decimal]

theorem skip_mark (c : Char) (rest : List Char) (mark : isSpace c = false) : skip (c :: rest) = c :: rest := by
  simp [skip, mark]

theorem skip_blank (rest : List Char) : skip (' ' :: rest) = skip rest := rfl

theorem value_skip (fuel : Nat) (a b : List Char) (same : skip a = skip b) : value fuel a = value fuel b := by
  cases fuel with
  | zero => rfl
  | succ fuel => rw [value, value, same]

theorem items_skip (fuel : Nat) (a b : List Char) (same : skip a = skip b) : items fuel a = items fuel b := by
  cases fuel with
  | zero => rfl
  | succ fuel => rw [items, items, value_skip fuel a b same]

theorem members_skip (fuel : Nat) (a b : List Char) (same : skip a = skip b) : members fuel a = members fuel b := by
  cases fuel with
  | zero => rfl
  | succ fuel => rw [members, members, same]

theorem digit_not_space (c : Char) (digit : isDigit c = true) : isSpace c = false := by
  simp only [isDigit, decide_eq_true_eq] at digit
  simp only [isSpace, Bool.or_eq_false_iff, decide_eq_false_iff_not]
  refine ⟨⟨⟨?_, ?_⟩, ?_⟩, ?_⟩ <;> rintro rfl <;> simp at digit

theorem value_natural (fuel n : Nat) (rest : List Char) (stops : NumberEnd rest) :
    value (fuel + 1) (decimal n ++ rest) = some (.num n, rest) := by
  have parsed := natural_decimal n rest stops
  cases split : decimal n with
  | nil => exact absurd split (decimal_ne_nil n)
  | cons d digits =>
      have digit : isDigit d = true := decimal_digits n d (split ▸ List.mem_cons_self)
      rw [split] at parsed
      rw [value, List.cons_append, skip_mark d _ (digit_not_space d digit)]
      split
      all_goals first
        | (rename_i head; injection head with same _; subst same; exact absurd digit (by decide))
        | (rw [← List.cons_append, parsed]; rfl)

theorem quoted_string (name : String) (rest : List Char) :
    stringBody (name.toList.flatMap escapeChar ++ '"' :: rest).length
      (name.toList.flatMap escapeChar ++ '"' :: rest) = some (name.toList, rest) := by
  apply string_body_quoted
  have grows : ∀ body : List Char, body.length ≤ (body.flatMap escapeChar).length := by
    intro body
    induction body with
    | nil => simp
    | cons c body ih =>
        have one : 1 ≤ (escapeChar c).length := by
          unfold escapeChar escapeUnicode
          split_ifs <;> simp
        simp only [List.flatMap_cons, List.length_append, List.length_cons]
        omega
  have bound := grows name.toList
  simp only [List.length_append, List.length_cons]
  omega

theorem value_string (fuel : Nat) (text : String) (rest : List Char) :
    value (fuel + 1) (quoted text ++ rest) = some (.str text, rest) := by
  have body := quoted_string text rest
  simp only [quoted, List.cons_append, List.append_assoc, List.nil_append]
  rw [value, skip_mark _ _ (by decide)]
  simp only [body, Option.map_some, String.ofList_toList]

mutual
def need : Json → Nat
  | .arr [] => 1
  | .arr (first :: rest) => 2 + need first + needItems rest
  | .obj [] => 1
  | .obj ((_, first) :: rest) => 2 + need first + needFields rest
  | .null => 1
  | .bool _ => 1
  | .num _ => 1
  | .str _ => 1
def needItems : List Json → Nat
  | [] => 0
  | item :: rest => 1 + need item + needItems rest
def needFields : List (String × Json) → Nat
  | [] => 0
  | (_, item) :: rest => 1 + need item + needFields rest
end

theorem print_marked (value : Json) (rest : List Char) : skip (print value ++ rest) = print value ++ rest := by
  cases value with
  | null => rfl
  | bool flag => cases flag <;> rfl
  | num n =>
      have digits : ∀ n, skip (decimal n ++ rest) = decimal n ++ rest := by
        intro n
        cases split : decimal n with
        | nil => exact absurd split (decimal_ne_nil n)
        | cons d digits =>
            exact skip_mark d _ (digit_not_space d (decimal_digits n d (split ▸ List.mem_cons_self)))
      cases n with
      | ofNat n => exact digits n
      | negSucc n => exact skip_mark _ _ (by decide)
  | str text => exact skip_mark _ _ (by decide)
  | arr items => cases items <;> exact skip_mark _ _ (by decide)
  | obj fields => cases fields <;> exact skip_mark _ _ (by decide)

theorem print_not_closing (value : Json) (rest later : List Char) : print value ++ rest ≠ ']' :: later := by
  intro same
  cases value with
  | null => injection same with head _; exact absurd head (by decide)
  | bool flag => cases flag <;> injection same with head _ <;> exact absurd head (by decide)
  | num n =>
      cases n with
      | ofNat n =>
          cases split : decimal n with
          | nil => exact absurd split (decimal_ne_nil n)
          | cons d digits =>
              have digit : isDigit d = true := decimal_digits n d (split ▸ List.mem_cons_self)
              simp only [print, integer, split, List.cons_append] at same
              injection same with head _
              subst head
              exact absurd digit (by decide)
      | negSucc n => injection same with head _; exact absurd head (by decide)
  | str text => injection same with head _; exact absurd head (by decide)
  | arr items => cases items <;> injection same with head _ <;> exact absurd head (by decide)
  | obj fields => cases fields <;> injection same with head _ <;> exact absurd head (by decide)

theorem number_end_items (rest : List Json) (tail : List Char) : NumberEnd (printItems rest ++ tail) := by
  cases rest <;> exact number_end_cons _ _ (by decide)

theorem number_end_fields (rest : List (String × Json)) (tail : List Char) :
    NumberEnd (printFields rest ++ tail) := by
  cases rest with
  | nil => exact number_end_cons _ _ (by decide)
  | cons field rest => exact number_end_cons _ _ (by decide)

theorem need_pos (parsed : Json) : 0 < need parsed := by
  cases parsed with
  | arr items => cases items <;> simp only [need] <;> omega
  | obj fields => cases fields <;> simp only [need] <;> omega
  | null => decide
  | bool flag => exact Nat.zero_lt_one
  | num n => exact Nat.zero_lt_one
  | str text => exact Nat.zero_lt_one

-- The parser undoes the printer. Each step of the parser spends one unit of fuel,
-- so the recursion is on the fuel and the case split on the form of the value.
mutual
theorem value_print (fuel : Nat) (parsed : Json) (rest : List Char) (enough : need parsed ≤ fuel)
    (stops : NumberEnd rest) : value fuel (print parsed ++ rest) = some (parsed, rest) := by
  cases fuel with
  | zero => exact absurd (need_pos parsed) (by omega)
  | succ fuel =>
      cases parsed with
      | null => rfl
      | bool flag => cases flag <;> rfl
      | num n =>
          cases n with
          | ofNat n => exact value_natural fuel n rest stops
          | negSucc n =>
              have digits := natural_decimal (n + 1) rest stops
              simp only [print, integer, List.cons_append]
              rw [value, skip_mark _ _ (by decide)]
              simp only [digits, Option.map_some]
              rfl
      | str text => exact value_string fuel text rest
      | arr items =>
          cases items with
          | nil => rfl
          | cons first later =>
              rw [need] at enough
              have inner := items_print fuel first later rest (by omega)
              simp only [print, List.cons_append, List.append_assoc] at inner ⊢
              rw [value, skip_mark _ _ (by decide)]
              simp only [print_marked]
              split
              · rename_i later' closing
                exact absurd closing (print_not_closing first _ _)
              · rw [inner]
                rfl
      | obj fields =>
          cases fields with
          | nil => rfl
          | cons field later =>
              obtain ⟨name, first⟩ := field
              rw [need] at enough
              have inner := members_print fuel name first later rest (by omega)
              simp only [print, List.cons_append, List.append_assoc] at inner ⊢
              rw [value, skip_mark _ _ (by decide)]
              simp only [quoted, List.cons_append] at inner ⊢
              rw [skip_mark _ _ (by decide)]
              simp only [inner, Option.map_some]
              rfl
theorem items_print (fuel : Nat) (first : Json) (later : List Json) (rest : List Char)
    (enough : 1 + need first + needItems later ≤ fuel) :
    items fuel (print first ++ printItems later ++ rest) = some (first :: later, rest) := by
  cases fuel with
  | zero => omega
  | succ fuel =>
      rw [items, List.append_assoc, value_print fuel first _ (by omega) (number_end_items later rest)]
      cases later with
      | nil => rfl
      | cons second later =>
          rw [needItems] at enough
          have inner := items_print fuel second later rest (by omega)
          simp only [printItems, List.cons_append, List.append_assoc] at inner ⊢
          rw [skip_mark _ _ (by decide)]
          change (items fuel (' ' :: _)).map _ = _
          rw [items_skip fuel _ _ (skip_blank _), inner]
          rfl
theorem members_print (fuel : Nat) (name : String) (first : Json) (later : List (String × Json))
    (rest : List Char) (enough : 1 + need first + needFields later ≤ fuel) :
    members fuel (quoted name ++ ':' :: ' ' :: print first ++ printFields later ++ rest) =
      some ((name, first) :: later, rest) := by
  cases fuel with
  | zero => omega
  | succ fuel =>
      have body := quoted_string name (':' :: ' ' :: (print first ++ (printFields later ++ rest)))
      have content : value fuel (' ' :: (print first ++ (printFields later ++ rest))) =
          some (first, printFields later ++ rest) := by
        rw [value_skip fuel _ _ (skip_blank _),
          value_print fuel first _ (by omega) (number_end_fields later rest)]
      simp only [quoted, List.cons_append, List.append_assoc, List.nil_append]
      rw [members, skip_mark _ _ (by decide)]
      simp only [body]
      rw [skip_mark _ _ (by decide)]
      simp only [content, String.ofList_toList]
      cases later with
      | nil => rfl
      | cons field later =>
          obtain ⟨second, value⟩ := field
          rw [needFields] at enough
          have inner := members_print fuel second value later rest (by omega)
          simp only [printFields, List.cons_append, List.append_assoc] at inner ⊢
          rw [skip_mark _ _ (by decide)]
          change (members fuel (' ' :: _)).map _ = _
          rw [members_skip fuel _ _ (skip_blank _), inner]
          rfl
end

mutual
theorem need_print (parsed : Json) : need parsed ≤ (print parsed).length := by
  cases parsed with
  | null => decide
  | bool flag => cases flag <;> decide
  | num n =>
      have digits : ∀ n, 1 ≤ (decimal n).length := fun n => List.length_pos_iff.mpr (decimal_ne_nil n)
      cases n with
      | ofNat n => exact digits n
      | negSucc n => simp [need, print, integer]
  | str text => simp [need, print, quoted]
  | arr items =>
      cases items with
      | nil => decide
      | cons first later =>
          have head := need_print first
          have tail := need_print_items later
          simp only [need, print, List.length_cons, List.length_append]
          omega
  | obj fields =>
      cases fields with
      | nil => decide
      | cons field later =>
          obtain ⟨name, first⟩ := field
          have head := need_print first
          have tail := need_print_fields later
          simp only [need, print, List.length_cons, List.length_append]
          omega
theorem need_print_items (later : List Json) : needItems later + 1 ≤ (printItems later).length := by
  cases later with
  | nil => decide
  | cons item later =>
      have head := need_print item
      have tail := need_print_items later
      simp only [needItems, printItems, List.length_cons, List.length_append]
      omega
theorem need_print_fields (later : List (String × Json)) : needFields later + 1 ≤ (printFields later).length := by
  cases later with
  | nil => decide
  | cons field later =>
      obtain ⟨name, item⟩ := field
      have head := need_print item
      have tail := need_print_fields later
      simp only [needFields, printFields, List.length_cons, List.length_append]
      omega
end

theorem loads_dumps (parsed : Json) : loads (dumps parsed) = some parsed := by
  have round := value_print ((print parsed).length + 1) parsed [] (Nat.le_succ_of_le (need_print parsed))
    (fun c head => nomatch head)
  rw [List.append_nil] at round
  simp only [loads, dumps, String.toList_ofList, round]
  rfl

end Json
