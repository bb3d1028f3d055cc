import SovereignLoop.Js.Binary64
import Mathlib.Data.List.Nodup
import Mathlib.Data.List.Sort
import Mathlib.Data.Nat.Digits

/-!
# JavaScript values

`VERI3FY.verify` takes a `Record<string, unknown>`, `LearningCore.ingest` a
`Record<string, unknown>` of any shape, and `PAXRuntime.route` the same: the sources read
fields of every JavaScript type and compare, print and coerce them with the language's
own rules. This file models a value of any type and those rules:

* `typeof`, truthiness and `=== undefined` / `=== null` by cases;
* `ToString` (which throws on a symbol), `String(...)` (which does not), and
  `Array.prototype.join`, mutually recursive with it;
* `ToNumeric` and the relational operators against a number, through `ToPrimitive`
  (an array compares as its joined string, any other object as `"[object Object]"`);
* the numeric operators, which throw when a `BigInt` meets a `Number`;
* the UTF-16 code units of a string, which `charCodeAt`, `length` and the default
  `Array.prototype.sort` see;
* a request body's properties, `??`, and `'...' + v` on a value parsed from JSON, where an
  own property named `toString` shadows the prototype's method.

Objects are plain data: a property list; a `JsRecord`, the type of the sources'
`Record<string, unknown>` arguments, carries the proof that its keys are distinct.
User-defined `valueOf`, `toString`, `toJSON`, getters and proxies are not modelled.
-/

namespace SovereignLoop

/-- What a modelled JavaScript operation throws: a `TypeError` raised by the language,
or any value thrown by user code (a listener, a sub-engine). -/
inductive JsError where
  | typeError
  | rangeError
  | thrown
  deriving DecidableEq, Repr

/-- A JavaScript value of any type. An object nested in a value is its property list, in
insertion order. -/
inductive JsVal where
  | undefined
  | null
  | bool (b : Bool)
  | num (n : JsNum)
  | str (s : String)
  | bigint (i : ℤ)
  | symbol (description : String)
  | arr (elems : List JsVal)
  | obj (props : List (String × JsVal))

/-- A `Record<string, unknown>`: an object's property list with distinct keys. -/
structure JsRecord where
  props : List (String × JsVal)
  nodup : (props.map Prod.fst).Nodup

instance : Inhabited JsVal := ⟨.undefined⟩

/-! ## Computations that may throw

`Except JsError` is the model of a JavaScript computation that may throw. Its normal form
for `simp` is `Except.ok`: `pure` is rewritten to it and a bind on it is run. -/

namespace Except

variable {ε α β : Type} (a : α) (e : ε) (f : α → Except ε β) (g : α → β)

/-- `pure` is a normal return. -/
@[simp] theorem pure_eq_ok : (pure a : Except ε α) = .ok a := rfl

/-- A bind on a normal return runs its continuation. -/
@[simp] theorem ok_bind : (Except.ok a >>= f) = f a := rfl

/-- A bind on a throw passes the throw on. -/
@[simp] theorem error_bind : (Except.error e >>= f) = .error e := rfl

@[simp] theorem map_ok : g <$> (Except.ok a : Except ε α) = .ok (g a) := rfl

@[simp] theorem map_error : g <$> (Except.error e : Except ε α) = .error e := rfl

end Except

namespace JsRecord

/-- `{}`. -/
def empty : JsRecord := ⟨[], List.nodup_nil⟩

/-- `record[key]`: the property's value, `undefined` when absent. -/
def get (r : JsRecord) (key : String) : JsVal := (r.props.lookup key).getD .undefined

/-- `Object.keys(record)`. -/
def keys (r : JsRecord) : List String := r.props.map Prod.fst

/-- The record as a JavaScript object value. -/
def toVal (r : JsRecord) : JsVal := .obj r.props

end JsRecord

/-! ## `Map` -/

/-- A JavaScript `Map` with string keys: its entries in insertion order, each key once. -/
structure JsMap (α : Type) where
  entries : List (String × α)
  nodup : (entries.map Prod.fst).Nodup

namespace JsMap

variable {α : Type}

/-- `new Map()`. -/
def empty : JsMap α := ⟨[], List.nodup_nil⟩

/-- `map.size`. -/
def size (m : JsMap α) : ℕ := m.entries.length

/-- `map.get(key)`. -/
def get? (m : JsMap α) (key : String) : Option α := m.entries.lookup key

/-- `map.has(key)`. -/
def has (m : JsMap α) (key : String) : Bool := m.entries.any (·.1 == key)

/-- The entry for `key` replaced by `(key, v)`, the others kept. -/
private def replaceAt (key : String) (v : α) (e : String × α) : String × α :=
  if e.1 = key then (key, v) else e

private theorem fst_replaceAt (key : String) (v : α) :
    Prod.fst ∘ replaceAt key v = Prod.fst := by
  funext e
  simp only [Function.comp, replaceAt]
  split <;> simp_all

/-- `map.set(key, v)`: an existing key keeps its place, a new key goes last. -/
def set (m : JsMap α) (key : String) (v : α) : JsMap α :=
  if h : m.has key then
    ⟨m.entries.map (replaceAt key v), by rw [List.map_map, fst_replaceAt]; exact m.nodup⟩
  else
    ⟨m.entries ++ [(key, v)], by
      rw [List.map_append, List.nodup_append]
      refine ⟨m.nodup, List.nodup_singleton _, ?_⟩
      simp only [has, List.any_eq_true, beq_iff_eq, not_exists, not_and] at h
      simp only [List.map_cons, List.map_nil, List.disjoint_singleton, List.mem_map, not_exists,
        not_and]
      exact h⟩

/-- `map.delete(key)`. -/
def delete (m : JsMap α) (key : String) : JsMap α :=
  ⟨m.entries.filter (·.1 != key), (m.nodup.sublist ((List.filter_sublist _).map _))⟩

/-- Every value updated in place, as `for (const v of map.values()) ...` does. -/
def mapValues (m : JsMap α) (f : α → α) : JsMap α :=
  ⟨m.entries.map fun e => (e.1, f e.2), by rw [List.map_map]; exact m.nodup⟩

/-! ### Lookups, sizes and entries after each operation -/

variable {m : JsMap α} {k k' : String} {v : α} {e : String × α}

/-- `has(k)` is true exactly when an entry is stored under `k`. -/
theorem has_iff : m.has k ↔ ∃ v, (k, v) ∈ m.entries := by
  simp [has]

/-- Keys are distinct, so a lookup finds exactly the entry stored under the key. -/
theorem get?_eq_some_iff : m.get? k = some v ↔ (k, v) ∈ m.entries := by
  obtain ⟨l, hl⟩ := m
  simp only [get?]
  induction l with
  | nil => simp
  | cons e l ih =>
    obtain ⟨k', v'⟩ := e
    simp only [List.map_cons, List.nodup_cons, List.mem_map, Prod.exists, exists_and_right,
      exists_eq_right, not_exists] at hl
    by_cases hk : k = k'
    · subst hk
      simp only [List.lookup_cons_self, Option.some.injEq, List.mem_cons, Prod.mk.injEq, true_and]
      exact ⟨fun h => .inl h.symm, fun h => h.elim Eq.symm fun h => (hl.1 v h).elim⟩
    · simp only [List.lookup_cons, beq_false_of_ne hk, List.mem_cons, Prod.mk.injEq, hk,
        false_and, false_or]
      exact ih hl.2

/-- A lookup finds nothing exactly when the key is absent. -/
theorem get?_eq_none_iff : m.get? k = none ↔ m.has k = false := by
  rw [← Bool.not_eq_true, has_iff, Option.eq_none_iff_forall_not_mem]
  simp [get?_eq_some_iff]

@[simp] theorem get?_empty : (empty : JsMap α).get? k = none := rfl

/-- `set(k, v)` stores `(k, v)` and keeps every entry stored under another key. -/
theorem mem_set : e ∈ (m.set k v).entries ↔ e = (k, v) ∨ e ∈ m.entries ∧ e.1 ≠ k := by
  unfold set
  split
  · rename_i h
    obtain ⟨w, hw⟩ := has_iff.mp h
    simp only [List.mem_map, replaceAt]
    constructor
    · rintro ⟨x, hx, hxe⟩
      split at hxe
      · exact .inl hxe.symm
      · exact .inr ⟨hxe ▸ hx, hxe ▸ ‹_›⟩
    · rintro (rfl | ⟨he, hk⟩)
      · exact ⟨_, hw, if_pos rfl⟩
      · exact ⟨e, he, if_neg hk⟩
  · rename_i h
    rw [has_iff] at h
    simp only [List.mem_append, List.mem_singleton]
    constructor
    · rintro (he | rfl)
      · exact .inr ⟨he, fun hk => h ⟨e.2, hk ▸ he⟩⟩
      · exact .inl rfl
    · rintro (rfl | ⟨he, -⟩)
      · exact .inr rfl
      · exact .inl he

/-- Setting a stored key replaces its entry in place. -/
theorem entries_set_of_has (h : m.has k) :
    (m.set k v).entries = m.entries.map fun e => if e.1 = k then (k, v) else e := by
  simp only [set, h, dif_pos]
  rfl

/-- Replacing the one entry stored under `k`, of value `a`, moves a sum over the values by
`v` minus `a`. -/
private theorem sum_map_replace (g : α → ℕ) :
    ∀ {l : List (String × α)}, (l.map Prod.fst).Nodup → ∀ {a : α}, (k, a) ∈ l →
      (l.map fun e => g (if e.1 = k then v else e.2)).sum + g a = (l.map (g ·.2)).sum + g v
  | [], _, _, h => nomatch h
  | (k', b) :: l, hl, a, h => by
    simp only [List.map_cons, List.nodup_cons, List.mem_map] at hl
    simp only [List.map_cons, List.sum_cons]
    rcases List.mem_cons.mp h with he | h
    · cases he
      have hrest : (l.map fun e => g (if e.1 = k then v else e.2)) = l.map (g ·.2) :=
        List.map_congr_left fun e he => by rw [if_neg fun hk => hl.1 ⟨e, he, hk⟩]
      rw [if_pos rfl, hrest]
      omega
    · have hk : k' ≠ k := fun hk => hl.1 ⟨(k, a), h, hk.symm⟩
      rw [if_neg hk, Nat.add_assoc, sum_map_replace g hl.2 h]
      omega

/-- Setting a key moves a sum over the values by the new value minus the value it
replaces. -/
theorem sum_set (g : α → ℕ) :
    ((m.set k v).entries.map (g ·.2)).sum + ((m.get? k).map g).getD 0 =
      (m.entries.map (g ·.2)).sum + g v := by
  cases hk : m.get? k with
  | none =>
    have hh : m.has k = false := get?_eq_none_iff.mp hk
    simp [set, hh]
  | some a =>
    have hh : m.has k := has_iff.mpr ⟨a, get?_eq_some_iff.mp hk⟩
    rw [entries_set_of_has hh, List.map_map, Option.map_some', Option.getD_some]
    simpa only [Function.comp_def, apply_ite Prod.snd] using
      sum_map_replace g m.nodup (get?_eq_some_iff.mp hk)

/-- `set` grows the map by one for a new key only. -/
theorem size_set : (m.set k v).size = if m.has k then m.size else m.size + 1 := by
  unfold set size
  split <;> simp_all

/-- After `set(k, v)` a lookup of `k` finds `v`, and of another key what it found before. -/
theorem get?_set : (m.set k v).get? k' = if k' = k then some v else m.get? k' := by
  apply Option.ext
  intro w
  rw [Option.mem_def, get?_eq_some_iff, mem_set]
  split
  · simp_all [eq_comm]
  · rw [Option.mem_def, get?_eq_some_iff]
    simp_all

/-- Mapping the values keeps each key, with its value mapped. -/
theorem mem_mapValues {f : α → α} :
    e ∈ (m.mapValues f).entries ↔ ∃ v, (e.1, v) ∈ m.entries ∧ f v = e.2 := by
  obtain ⟨k, w⟩ := e
  simp only [mapValues, List.mem_map, Prod.mk.injEq, Prod.exists]
  constructor
  · rintro ⟨a, b, h, rfl, rfl⟩
    exact ⟨b, h, rfl⟩
  · rintro ⟨v, h, rfl⟩
    exact ⟨k, v, h, rfl, rfl⟩

@[simp] theorem size_mapValues {f : α → α} : (m.mapValues f).size = m.size := by
  simp [mapValues, size]

/-- Mapping the values keeps the keys. -/
@[simp] theorem has_mapValues {f : α → α} : (m.mapValues f).has k = m.has k := by
  simp [mapValues, has, List.any_map, Function.comp_def]

/-- A lookup after mapping the values is the lookup, mapped. -/
theorem get?_mapValues {f : α → α} : (m.mapValues f).get? k = (m.get? k).map f := by
  apply Option.ext
  intro w
  rw [Option.mem_def, get?_eq_some_iff, mem_mapValues, Option.mem_def, Option.map_eq_some']
  simp [get?_eq_some_iff]

/-- `delete(k)` keeps exactly the entries stored under another key. -/
theorem mem_delete : e ∈ (m.delete k).entries ↔ e ∈ m.entries ∧ e.1 ≠ k := by
  simp [delete]

/-- Deleting the keys of a list of entries, one after another. -/
theorem mem_foldl_delete {l : List (String × α)} :
    e ∈ (l.foldl (fun m x => m.delete x.1) m).entries → e ∈ m.entries := by
  induction l generalizing m with
  | nil => exact id
  | cons x l ih => exact fun h => (mem_delete.mp (ih h)).1

end JsMap

/-! ## Strings -/

/-- The UTF-16 code units of a character. -/
def Char.utf16 (c : Char) : List ℕ :=
  if c.val < 0x10000 then [c.val.toNat]
  else [0xD800 + (c.val.toNat - 0x10000) / 0x400, 0xDC00 + (c.val.toNat - 0x10000) % 0x400]

/-- The UTF-16 code units of a string, what `charCodeAt` and `length` index. -/
def String.utf16 (s : String) : List ℕ := s.toList.flatMap Char.utf16

/-- Lexicographic order on code-unit sequences; a proper prefix comes first. -/
def unitsLt : List ℕ → List ℕ → Bool
  | [], [] => false
  | [], _ :: _ => true
  | _ :: _, [] => false
  | a :: as, b :: bs => a < b || (a = b && unitsLt as bs)

/-- `a < b` on strings: lexicographic order of the UTF-16 code units. -/
def jsStringLt (a b : String) : Bool := unitsLt (String.utf16 a) (String.utf16 b)

@[simp] theorem unitsLt_cons_cons (a b : ℕ) (as bs : List ℕ) :
    unitsLt (a :: as) (b :: bs) = (decide (a < b) || (decide (a = b) && unitsLt as bs)) := rfl

/-- String order is asymmetric: `u < w` makes `w < u` false. -/
theorem unitsLt_asymm : ∀ {u w : List ℕ}, unitsLt u w → unitsLt w u = false
  | [], _, _ => by cases ‹List ℕ› <;> rfl
  | _ :: _, [], h => absurd h (by simp [unitsLt])
  | a :: u, b :: w, h => by
    simp only [unitsLt_cons_cons, Bool.or_eq_true, decide_eq_true_eq, Bool.and_eq_true] at h ⊢
    rcases h with h | ⟨rfl, h⟩
    · simp [Nat.lt_asymm h, Nat.ne_of_gt h]
    · simp [unitsLt_asymm h]

/-- If `u < w` then any `v` is above `u` or below `w`: the complement of the order is
transitive. -/
theorem unitsLt_or : ∀ {u w : List ℕ} (v : List ℕ), unitsLt u w → unitsLt u v ∨ unitsLt v w
  | [], _ :: _, [], _ => .inr rfl
  | [], _, _ :: _, _ => .inl rfl
  | _ :: _, [], _, h => absurd h (by simp [unitsLt])
  | _ :: _, _ :: _, [], _ => .inr rfl
  | a :: u, b :: w, c :: v, h => by
    simp only [unitsLt_cons_cons, Bool.or_eq_true, decide_eq_true_eq, Bool.and_eq_true] at h ⊢
    rcases Nat.lt_trichotomy a c with hac | rfl | hca
    · exact .inl (.inl hac)
    · rcases h with h | ⟨rfl, h⟩
      · exact .inr (.inl h)
      · exact (unitsLt_or v h).imp (fun h => .inr ⟨rfl, h⟩) fun h => .inr ⟨rfl, h⟩
    · rcases h with h | ⟨rfl, h⟩
      · exact .inr (.inl (by omega))
      · exact .inr (.inl hca)

/-- The order `strings.sort()` puts strings in: `a` may stand before `b` unless `b < a`. -/
def jsStringLe (a b : String) : Prop := jsStringLt b a = false

instance : DecidableRel jsStringLe := fun _ _ => inferInstanceAs (Decidable (_ = _))

instance : IsTotal String jsStringLe :=
  ⟨fun a b => by
    unfold jsStringLe jsStringLt
    cases h : unitsLt (String.utf16 a) (String.utf16 b)
    · exact .inr rfl
    · exact .inl (unitsLt_asymm h)⟩

instance : IsTrans String jsStringLe :=
  ⟨fun a b c hab hbc => by
    unfold jsStringLe jsStringLt at *
    cases h : unitsLt (String.utf16 c) (String.utf16 a)
    · rfl
    · rcases unitsLt_or (String.utf16 b) h with h' | h' <;> simp_all⟩

/-- `strings.sort()` with no comparator: a stable sort by UTF-16 code units. -/
def sortStrings (xs : List String) : List String := xs.insertionSort jsStringLe

/-- Sorting keeps the number of strings. -/
@[simp] theorem length_sortStrings (xs : List String) : (sortStrings xs).length = xs.length :=
  List.length_insertionSort _ _

/-- Sorting a sorted array changes nothing. -/
@[simp] theorem sortStrings_sortStrings (xs : List String) :
    sortStrings (sortStrings xs) = sortStrings xs :=
  (List.sorted_insertionSort _ _).insertionSort_eq

/-- `s.includes(t)`. -/
def strIncludes (s t : String) : Bool := s.toList.tails.any fun u => t.toList.isPrefixOf u

/-- `/\d+\.\d+/.test(s)`: some `.` has an ASCII digit right before and right after it
(a match of `\d+\.\d+` can always be shrunk to one digit on each side). -/
def hasDigitDotDigit : List Char → Bool
  | [] => false
  | a :: t =>
    (a.isDigit && match t with
      | '.' :: b :: _ => b.isDigit
      | _ => false) || hasDigitDotDigit t

/-- A match in a suffix is a match in the whole string. -/
theorem hasDigitDotDigit_append {m : List Char} (h : hasDigitDotDigit m = true) :
    ∀ l : List Char, hasDigitDotDigit (l ++ m) = true
  | [] => h
  | a :: l => by
    rw [List.cons_append, hasDigitDotDigit.eq_def]
    simp only [hasDigitDotDigit_append h l, Bool.or_true]

/-- The character of a decimal digit is a digit. -/
theorem isDigit_digitChar {d : ℕ} (h : d < 10) : (Nat.digitChar d).isDigit = true :=
  (by decide : ∀ d < 10, (Nat.digitChar d).isDigit = true) d h

/-- `Nat.toDigits 10` puts digits in front of what it has built, at least one. -/
theorem toDigitsCore_ten : ∀ (fuel n : ℕ) (ds : List Char),
    ∃ l, Nat.toDigitsCore 10 (fuel + 1) n ds = l ++ ds ∧ l ≠ [] ∧ ∀ c ∈ l, c.isDigit = true
  | fuel, n, ds => by
    have hd := isDigit_digitChar (Nat.mod_lt n (by norm_num : 10 > 0))
    unfold Nat.toDigitsCore
    dsimp only
    split
    · exact ⟨[_], rfl, List.cons_ne_nil _ _, by simpa using hd⟩
    · cases fuel with
      | zero => exact ⟨[_], rfl, List.cons_ne_nil _ _, by simpa using hd⟩
      | succ fuel =>
        obtain ⟨l, hl, hne, hl'⟩ := toDigitsCore_ten fuel (n / 10) (Nat.digitChar (n % 10) :: ds)
        refine ⟨l ++ [Nat.digitChar (n % 10)], by simp [hl], by simp, ?_⟩
        simpa [or_imp, forall_and, hd] using hl'

/-- `${a}.${b}` for natural numbers matches `/\d+\.\d+/`. -/
theorem hasDigitDotDigit_natDotNat (a b : ℕ) :
    hasDigitDotDigit (toString a ++ "." ++ toString b).toList = true := by
  obtain ⟨la, ha, hna, hda⟩ := toDigitsCore_ten a a []
  obtain ⟨lb, hb, hnb, hdb⟩ := toDigitsCore_ten b b []
  obtain ⟨l, x, rfl⟩ := List.eq_nil_or_concat la |>.resolve_left hna
  obtain ⟨y, m, rfl⟩ := List.exists_cons_of_ne_nil hnb
  have hs : Nat.toDigits 10 a ++ ['.'] ++ Nat.toDigits 10 b = l ++ x :: '.' :: y :: m := by
    simp [Nat.toDigits, ha, hb]
  show hasDigitDotDigit (Nat.toDigits 10 a ++ ['.'] ++ Nat.toDigits 10 b) = true
  rw [hs]
  refine hasDigitDotDigit_append ?_ l
  simp [hasDigitDotDigit, hda x (by simp), hdb y (by simp)]

/-- `a || b` on operands that may throw: `b` is evaluated only when `a` is `false`. -/
def jsOr (a b : Except JsError Bool) : Except JsError Bool :=
  a >>= fun x => if x then pure true else b

/-- `a && b` on operands that may throw: `b` is evaluated only when `a` is `true`. -/
def jsAnd (a b : Except JsError Bool) : Except JsError Bool :=
  a >>= fun x => if x then b else pure false

/-- `||` on operands that return is the Boolean or. -/
@[simp] theorem jsOr_ok_ok (a b : Bool) : jsOr (.ok a) (.ok b) = .ok (a || b) := by
  cases a <;> rfl

/-- `&&` on operands that return is the Boolean and. -/
@[simp] theorem jsAnd_ok_ok (a b : Bool) : jsAnd (.ok a) (.ok b) = .ok (a && b) := by
  cases a <;> rfl

namespace JsVal

/-! ## Type tests -/

/-- `typeof v`. -/
def typeOf : JsVal → String
  | undefined => "undefined"
  | null => "object"
  | bool _ => "boolean"
  | num _ => "number"
  | str _ => "string"
  | bigint _ => "bigint"
  | symbol _ => "symbol"
  | arr _ => "object"
  | obj _ => "object"

/-- `v === undefined || v === null`. -/
def isNullish : JsVal → Bool
  | undefined => true
  | null => true
  | _ => false

/-- `ToBoolean(v)`, what `!v` and `v || d` test. -/
def truthy : JsVal → Bool
  | undefined => false
  | null => false
  | bool b => b
  | num (.fin q) => q ≠ 0
  | num .nan => false
  | num _ => true
  | str s => s ≠ ""
  | bigint i => i ≠ 0
  | _ => true

/-! ## `ToString` -/

mutual
/-- `ToString(v)`, what a template literal prints; a symbol throws a `TypeError`. -/
def toStr : JsVal → Except JsError String
  | undefined => .ok "undefined"
  | null => .ok "null"
  | bool b => .ok (if b then "true" else "false")
  | num n => .ok n.toStr
  | str s => .ok s
  | bigint i => .ok (toString i)
  | symbol _ => .error .typeError
  | arr xs => join xs
  | obj _ => .ok "[object Object]"

/-- `xs.join(',')`: `undefined` and `null` elements print as the empty string. -/
def join : List JsVal → Except JsError String
  | [] => .ok ""
  | x :: xs => do
    let a ← match x with
      | undefined => .ok ""
      | null => .ok ""
      | x => toStr x
    match xs with
    | [] => .ok a
    | _ => return a ++ "," ++ (← join xs)
end

/-- `String(v)`: `ToString`, except that a symbol prints as `Symbol(description)`. -/
def string : JsVal → Except JsError String
  | symbol d => .ok ("Symbol(" ++ d ++ ")")
  | v => toStr v

@[simp] theorem toStr_str (s : String) : (str s).toStr = .ok s := rfl

/-- `String(n)` of a number is its printed form. -/
@[simp] theorem toStr_num (n : JsNum) : (num n).toStr = .ok n.toStr := rfl

@[simp] theorem string_str (s : String) : (str s).string = .ok s := rfl

/-! ## Values parsed from a request body -/

/-- `v.key` on a value that is not `undefined` or `null`, for a key that neither
`Object.prototype` nor the prototype of an array, a string, a number or a boolean defines:
an object's own property, `undefined` on any other value. -/
def prop (v : JsVal) (key : String) : JsVal :=
  match v with
  | obj ps => (ps.lookup key).getD undefined
  | _ => undefined

/-- `v ?? d`. -/
def coalesce (v d : JsVal) : JsVal := if v.isNullish then d else v

@[simp] theorem coalesce_str (s : String) (d : JsVal) : (str s).coalesce d = str s := rfl

/-- `v ?? d` is `v` when `v` is neither `null` nor `undefined`. -/
theorem coalesce_of_isNullish_false {v : JsVal} (h : v.isNullish = false) (d : JsVal) :
    v.coalesce d = v := by
  simp [coalesce, h]

/-- A default that is not nullish makes `v ?? d` not nullish. -/
theorem isNullish_coalesce (v : JsVal) {d : JsVal} (h : d.isNullish = false) :
    (v.coalesce d).isNullish = false := by
  unfold coalesce
  split <;> simp_all

mutual
/-- `ToString(ToPrimitive(v))`, what `'...' + v` appends. An object prints through
`Object.prototype.toString`, as `"[object Object]"`, unless an own property named
`toString` shadows it: a property parsed from JSON is no function, so such an object has
no method left that returns a primitive, and converting it throws a `TypeError`. An array
prints its elements joined by commas. -/
def concatStr : JsVal → Except JsError String
  | obj ps => if ps.any (·.1 == "toString") then .error .typeError else .ok "[object Object]"
  | arr xs => concatJoin xs
  | v => v.toStr

/-- `Array.prototype.join` of elements printed by `concatStr`. -/
def concatJoin : List JsVal → Except JsError String
  | [] => .ok ""
  | x :: xs => do
    let a ← match x with
      | undefined => .ok ""
      | null => .ok ""
      | x => concatStr x
    match xs with
    | [] => .ok a
    | _ => return a ++ "," ++ (← concatJoin xs)
end

@[simp] theorem concatStr_str (s : String) : (str s).concatStr = .ok s := rfl

/-! ## Numeric coercion and comparison -/

/-- A numeric value: a `Number` or a `BigInt`. -/
inductive Numeric where
  | num (n : JsNum)
  | big (i : ℤ)

/-- `ToNumeric(ToPrimitive(v, number))`. An array goes through its joined string, any
other object through `"[object Object]"`, which is `NaN`. -/
def toNumeric : JsVal → Except JsError Numeric
  | undefined => .ok (.num .nan)
  | null => .ok (.num (.fin 0))
  | bool b => .ok (.num (.fin (if b then 1 else 0)))
  | num n => .ok (.num n)
  | str s => .ok (.num (JsNum.ofString s))
  | bigint i => .ok (.big i)
  | symbol _ => .error .typeError
  | arr xs => do return .num (JsNum.ofString (← join xs))
  | obj _ => .ok (.num .nan)

/-- `IsLessThan` on numeric values; `none` is `undefined` (a `NaN` operand). -/
def Numeric.lessThan : Numeric → Numeric → Option Bool
  | .num a, .num b => a.lessThan b
  | .big a, .big b => some (decide (a < b))
  | .big a, .num b => JsNum.lessThan (.fin a) b
  | .num a, .big b => a.lessThan (.fin b)

/-- `v < c` for a number literal `c`. -/
def ltNum (v : JsVal) (c : ℚ) : Except JsError Bool := do
  return ((← v.toNumeric).lessThan (.num (.fin c))) == some true

/-- `v > c` for a number literal `c`. -/
def gtNum (v : JsVal) (c : ℚ) : Except JsError Bool := do
  return (Numeric.lessThan (.num (.fin c)) (← v.toNumeric)) == some true

/-- `v <= c` for a number literal `c`: `c < v` is `false`, not `undefined`. -/
def leNum (v : JsVal) (c : ℚ) : Except JsError Bool := do
  return (Numeric.lessThan (.num (.fin c)) (← v.toNumeric)) == some false

/-- `v >= c` for a number literal `c`. -/
def geNum (v : JsVal) (c : ℚ) : Except JsError Bool := do
  return ((← v.toNumeric).lessThan (.num (.fin c))) == some false

/-- `v < c` on a number is `Below`. -/
@[simp] theorem ltNum_num (x : JsNum) (c : ℚ) : (num x).ltNum c = .ok (decide (x.Below c)) := by
  simp [ltNum, toNumeric, Numeric.lessThan]

/-- `v > c` on a number is `Above`. -/
@[simp] theorem gtNum_num (x : JsNum) (c : ℚ) : (num x).gtNum c = .ok (decide (x.Above c)) := by
  simp [gtNum, toNumeric, Numeric.lessThan]

/-- `ToNumeric(ToPrimitive(v, number))` on a value parsed from JSON, where an own property
named `toString` shadows the prototype's: converting an object with one throws, any other
object is `NaN`, and an array goes through `concatJoin`. -/
def primNumeric : JsVal → Except JsError Numeric
  | obj ps => if ps.any (·.1 == "toString") then .error .typeError else .ok (.num .nan)
  | arr xs => do return .num (JsNum.ofString (← concatJoin xs))
  | v => v.toNumeric

/-! ## Numeric operators -/

/-- A binary numeric operator: both operands are coerced, a `Number` and a `BigInt`
together throw a `TypeError`, and a `Number` result is rounded to a double. -/
def arith (fNum : JsNum → JsNum → JsNum) (fBig : ℤ → ℤ → Except JsError ℤ)
    (a b : JsVal) : Except JsError Numeric := do
  match ← a.toNumeric, ← b.toNumeric with
  | .num x, .num y => return .num (fNum x y).toDouble
  | .big x, .big y => return .big (← fBig x y)
  | _, _ => .error .typeError

/-- `a - b`. -/
def sub : JsVal → JsVal → Except JsError Numeric := arith JsNum.sub fun x y => .ok (x - y)

/-- `x - y` on two numbers is their difference, rounded to a double. -/
@[simp] theorem sub_num (x y : JsNum) : sub (num x) (num y) = .ok (.num (x.sub y).toDouble) := rfl

/-- `a * b`. -/
def mul : JsVal → JsVal → Except JsError Numeric := arith JsNum.mul fun x y => .ok (x * y)

/-- `a / b`; `BigInt` division truncates and throws a `RangeError` on zero. -/
def div : JsVal → JsVal → Except JsError Numeric :=
  arith JsNum.div fun x y => if y = 0 then .error .rangeError else .ok (x.tdiv y)

/-- A numeric value back as a JavaScript value. -/
def Numeric.toVal : Numeric → JsVal
  | .num n => JsVal.num n
  | .big i => JsVal.bigint i

/-! ## `JSON.stringify` -/

/-- Four lowercase hexadecimal digits, as `JSON.stringify` escapes a control character. -/
def hex4 (n : ℕ) : List Char :=
  let ds := Nat.toDigits 16 n
  List.replicate (4 - ds.length) '0' ++ ds

/-- One character as `QuoteJSONString` writes it: a backslash escape for the backspace, tab,
line feed, form feed, carriage return, double quote and backslash, `\u00XX` for the other
control characters, itself otherwise. -/
def jsonEscape (c : Char) : List Char :=
  let bs := Char.ofNat 92
  if c = Char.ofNat 8 then [bs, 'b'] else if c = Char.ofNat 9 then [bs, 't']
  else if c = Char.ofNat 10 then [bs, 'n'] else if c = Char.ofNat 12 then [bs, 'f']
  else if c = Char.ofNat 13 then [bs, 'r'] else if c = Char.ofNat 34 then [bs, c]
  else if c = bs then [bs, bs] else if c.toNat < 32 then bs :: 'u' :: hex4 c.toNat
  else [c]

/-- `QuoteJSONString(s)`. -/
def quoteJSON (s : String) : String :=
  String.mk (Char.ofNat 34 :: s.toList.flatMap jsonEscape ++ [Char.ofNat 34])

mutual
/-- `JSON.stringify(v)`: `none` is `undefined`, for `undefined` and a symbol; a `BigInt`
anywhere throws a `TypeError`, and a non-finite number prints as `null`. -/
def jsonStringify : JsVal → Except JsError (Option String)
  | undefined => .ok none
  | null => .ok (some "null")
  | bool b => .ok (some (if b then "true" else "false"))
  | num (.fin q) => .ok (some (JsNum.fin q).toStr)
  | num _ => .ok (some "null")
  | str s => .ok (some (quoteJSON s))
  | bigint _ => .error .typeError
  | symbol _ => .ok none
  | arr xs => do return some ("[" ++ ",".intercalate (← jsonElems xs) ++ "]")
  | obj ps => do return some ("\x7b" ++ ",".intercalate (← jsonProps ps) ++ "\x7d")

/-- The elements of an array: an element that is `undefined` prints as `null`. -/
def jsonElems : List JsVal → Except JsError (List String)
  | [] => .ok []
  | x :: xs => do
    let s ← jsonStringify x
    return s.getD "null" :: (← jsonElems xs)

/-- The members of an object: a property whose value is `undefined` is left out. -/
def jsonProps : List (String × JsVal) → Except JsError (List String)
  | [] => .ok []
  | p :: ps => do
    let s ← jsonProp p
    return s.toList ++ (← jsonProps ps)

/-- One member, `"key":value`. -/
def jsonProp : String × JsVal → Except JsError (Option String)
  | (k, v) => do return (← jsonStringify v).map fun s => quoteJSON k ++ ":" ++ s
end

end JsVal

end SovereignLoop
