import Mathlib.Data.List.Basic

/-
  Decoded JSON as Dart code sees it: dynamic values whose
  operators throw, and the implicit downcasts a typed
  variable makes of a dynamic value.

  Null is a value of every type here, so a downcast to a
  nullable type yields an option.  Texts of the virtual
  machine's own errors are abbreviated to the name of the
  error class and a detail.

  Key definitions include:
    * `Dart.Json`
    * `Dart.Thrown`
    * `Dart.Json.index` and `Dart.Json.itemAt`
    * `Dart.Json.asString`, `asInt`, `asBool`, `asMap` and
      `asList`
    * `Dart.assign` and `Dart.tryEach`

  A body whose statements do not touch a view of the object
  keeps that view: `Dart.tryEach_view`.
-/

------------------------------------------------------------
-- Decoded Values
------------------------------------------------------------

namespace Dart

/-
  The values `convert.jsonDecode` builds.  A map is given by
  its entries; the first entry of a key counts.  A number
  with a fraction is kept as the text it prints as.
-/
inductive Json where
  | null
  | bool (b : Bool)
  | int (n : Int)
  | double (text : String)
  | str (s : String)
  | arr (items : List Json)
  | obj (fields : List (String × Json))

namespace Json

mutual

/- The text `toString` gives a decoded value. -/
def toText : Json → String
  | .null => "null"
  | .bool b => toString b
  | .int n => toString n
  | .double text => text
  | .str s => s
  | .arr items => "[" ++ itemsText items ++ "]"
  | .obj fields => "\x7b" ++ fieldsText fields ++ "\x7d"

/- The items of a list, separated by commas. -/
def itemsText : List Json → String
  | [] => ""
  | [j] => toText j
  | j :: js => toText j ++ ", " ++ itemsText js

/- The entries of a map, separated by commas. -/
def fieldsText : List (String × Json) → String
  | [] => ""
  | [(key, j)] => key ++ ": " ++ toText j
  | (key, j) :: rest =>
      key ++ ": " ++ toText j ++ ", " ++ fieldsText rest

end

end Json

end Dart

------------------------------------------------------------
-- Deciding Equality
------------------------------------------------------------

namespace Dart

namespace Json

mutual

/- Structural equality of decoded values. -/
def beq : Json → Json → Bool
  | .null, .null => true
  | .bool a, .bool b => a == b
  | .int a, .int b => a == b
  | .double a, .double b => a == b
  | .str a, .str b => a == b
  | .arr a, .arr b => beqItems a b
  | .obj a, .obj b => beqFields a b
  | _, _ => false

def beqItems : List Json → List Json → Bool
  | [], [] => true
  | a :: as, b :: bs => beq a b && beqItems as bs
  | _, _ => false

def beqFields :
    List (String × Json) → List (String × Json) → Bool
  | [], [] => true
  | (k, a) :: as, (l, b) :: bs =>
      k == l && (beq a b && beqFields as bs)
  | _, _ => false

end

mutual

theorem beq_iff : ∀ a b : Json, beq a b = true ↔ a = b
  | .null, b => by cases b <;> simp [beq]
  | .bool a, b => by cases b <;> simp [beq]
  | .int a, b => by cases b <;> simp [beq]
  | .double a, b => by cases b <;> simp [beq]
  | .str a, b => by cases b <;> simp [beq]
  | .arr a, b => by cases b <;> simp [beq, beqItems_iff a]
  | .obj a, b => by cases b <;> simp [beq, beqFields_iff a]

theorem beqItems_iff :
    ∀ a b : List Json, beqItems a b = true ↔ a = b
  | [], b => by cases b <;> simp [beqItems]
  | a :: as, b => by
      cases b <;>
        simp [beqItems, beq_iff a, beqItems_iff as]

theorem beqFields_iff :
    ∀ a b : List (String × Json),
      beqFields a b = true ↔ a = b
  | [], b => by cases b <;> simp [beqFields]
  | (k, a) :: as, b => by
      cases b with
      | nil => simp [beqFields]
      | cons entry bs =>
          rcases entry with ⟨l, b⟩
          simp [beqFields, beq_iff a, beqFields_iff as,
            and_assoc]

end

instance : DecidableEq Json := fun a b =>
  decidable_of_iff (beq a b = true) (beq_iff a b)

end Json

end Dart

------------------------------------------------------------
-- Thrown Errors
------------------------------------------------------------

namespace Dart

/-
  What a statement can throw: an `Exception` with the value
  it was built from, or an error of a named class.
-/
inductive Thrown where
  | exception (message : Json)
  | error (cls detail : String)
deriving DecidableEq

namespace Thrown

/- The text of a caught error. -/
def toText : Thrown → String
  | .exception .null => "Exception"
  | .exception message => "Exception: " ++ message.toText
  | .error cls detail => cls ++ ": " ++ detail

/- A member that the receiver does not have. -/
def noSuchMethod (member : String) : Thrown :=
  .error "NoSuchMethodError" member

/- A value that is not of the expected type. -/
def typeError (expected : String) : Thrown :=
  .error "TypeError" expected

end Thrown

end Dart

------------------------------------------------------------
-- Dynamic Operators
------------------------------------------------------------

namespace Dart

namespace Json

/- The value under a key, null when the key is absent. -/
def field
    (fields : List (String × Json))
    (key : String) : Json :=
  (fields.lookup key).getD .null

/- `j[key]` with a text key. -/
def index
    (j : Json)
    (key : String) : Except Thrown Json :=
  match j with
  | .obj fields => .ok (field fields key)
  | .arr _ => .error (.typeError "int")
  | .str _ => .error (.typeError "int")
  | _ => .error (.noSuchMethod "[]")

/- `j[i]` with a number. -/
def itemAt
    (j : Json)
    (i : Nat) : Except Thrown Json :=
  match j with
  | .obj _ => .ok .null
  | .arr items =>
      match items[i]? with
      | some item => .ok item
      | none => .error (.error "RangeError" (toString i))
  | .str s =>
      match s.toList[i]? with
      | some c => .ok (.str (String.ofList [c]))
      | none => .error (.error "RangeError" (toString i))
  | _ => .error (.noSuchMethod "[]")

/- `j[key] = value` on a map; other values refuse it. -/
def setIndex
    (j : Json)
    (key : String)
    (value : Json) : Except Thrown Json :=
  match j with
  | .obj fields =>
      .ok (.obj ((key, value) ::
        fields.filter fun entry => entry.1 ≠ key))
  | .arr _ => .error (.typeError "int")
  | _ => .error (.noSuchMethod "[]=")

/- The last write of a key counts. -/
theorem setIndex_setIndex
    {j k : Json}
    {key : String}
    {v : Json}
    (hFirst : j.setIndex key v = .ok k)
    (w : Json) :
    k.setIndex key w = j.setIndex key w := by
  cases j with
  | obj fields =>
      cases hFirst
      simp only [setIndex, ne_eq, List.filter_cons,
        not_true_eq_false, decide_false, Bool.false_eq_true,
        if_false, List.filter_filter, Bool.and_self]
  | _ => simp [setIndex] at hFirst

/- `j.containsKey(key)` -/
def containsKey
    (j : Json)
    (key : String) : Except Thrown Bool :=
  match j with
  | .obj fields => .ok (fields.any fun entry => entry.1 = key)
  | _ => .error (.noSuchMethod "containsKey")

/- Downcast to `String`. -/
def asString : Json → Except Thrown (Option String)
  | .null => .ok none
  | .str s => .ok (some s)
  | _ => .error (.typeError "String")

/- `j[key]` assigned to a `String`. -/
def text
    (j : Json)
    (key : String) : Except Thrown (Option String) := do
  asString (← j.index key)

/- Downcast to `int`. -/
def asInt : Json → Except Thrown (Option Int)
  | .null => .ok none
  | .int n => .ok (some n)
  | _ => .error (.typeError "int")

/- Downcast to `bool`. -/
def asBool : Json → Except Thrown (Option Bool)
  | .null => .ok none
  | .bool b => .ok (some b)
  | _ => .error (.typeError "bool")

/- Downcast to `Map`; the value itself is handed on. -/
def asMap : Json → Except Thrown Json
  | .null => .ok .null
  | .obj fields => .ok (.obj fields)
  | _ => .error (.typeError "Map")

/- Downcast to `List`; the value itself is handed on. -/
def asList : Json → Except Thrown Json
  | .null => .ok .null
  | .arr items => .ok (.arr items)
  | _ => .error (.typeError "List")

/- The items a `for` loop over a dynamic value visits. -/
def asIterable : Json → Except Thrown (List Json)
  | .arr items => .ok items
  | .null => .error (.noSuchMethod "iterator")
  | _ => .error (.typeError "Iterable")

/- `j != null`. -/
def isNotNull : Json → Bool
  | .null => false
  | _ => true

/- The JSON of a nullable text. -/
def ofString? : Option String → Json
  | none => .null
  | some s => .str s

/- The JSON of a nullable number. -/
def ofInt? : Option Int → Json
  | none => .null
  | some n => .int n

/- The JSON of a nullable flag. -/
def ofBool? : Option Bool → Json
  | none => .null
  | some b => .bool b

/- Nullable values are downcast to what they were. -/
@[simp] theorem asString_ofString?
    (s : Option String) :
    (ofString? s).asString = .ok s := by
  cases s <;> rfl

@[simp] theorem asInt_ofInt?
    (n : Option Int) :
    (ofInt? n).asInt = .ok n := by
  cases n <;> rfl

@[simp] theorem asBool_ofBool?
    (b : Option Bool) :
    (ofBool? b).asBool = .ok b := by
  cases b <;> rfl

/- Null or a text: what a `String` variable accepts. -/
def isNullableText : Json → Bool
  | .null => true
  | .str _ => true
  | _ => false

theorem exists_asString_iff
    (j : Json) :
    (∃ s, j.asString = .ok s) ↔
      j.isNullableText = true := by
  cases j <;> simp [asString, isNullableText]

theorem isNullableText_of_ok
    {j : Json}
    {s : Option String}
    (hResult : j.asString = .ok s) :
    j.isNullableText = true :=
  (exists_asString_iff j).mp ⟨s, hResult⟩

theorem isNullableText_of_error
    {j : Json}
    {e : Thrown}
    (hResult : j.asString = .error e) :
    j.isNullableText = false := by
  cases j <;> simp_all [asString, isNullableText]

/- Only a text downcasts to a text that is not null. -/
theorem asString_eq_some_iff
    {j : Json}
    {s : String} :
    j.asString = .ok (some s) ↔ j = .str s := by
  cases j <;> simp [asString]

/- Reading a text field of a map. -/
@[simp] theorem text_obj
    (fields : List (String × Json))
    (key : String) :
    (obj fields).text key = (field fields key).asString := rfl

end Json

/- String interpolation of a nullable text. -/
def interpolate (s : Option String) : String :=
  s.getD "null"

/- The characters that `trim` removes at the ends. -/
def isWhitespace (c : Char) : Bool :=
  c.isWhitespace ||
    c.toNat ∈
      [0x0B, 0x0C, 0x85, 0xA0, 0x1680, 0x2028, 0x2029,
        0x202F, 0x205F, 0x3000, 0xFEFF] ||
    (0x2000 ≤ c.toNat && c.toNat ≤ 0x200A)

def trim (s : String) : String :=
  String.ofList
    ((s.toList.dropWhile isWhitespace).reverse.dropWhile
      isWhitespace).reverse

end Dart

------------------------------------------------------------
-- Bodies That Swallow Their Errors
------------------------------------------------------------

namespace Dart

variable {α β : Type}

/- The assignment of a value that may throw to a field. -/
def assign
    (value : Except Thrown β)
    (set : α → β → α)
    (a : α) : Except Thrown α :=
  match value with
  | .error e => .error e
  | .ok v => .ok (set a v)

/-
  `try { ... } catch` around assignments to the fields of an
  object under construction: the statements run in order,
  and the object stays as the first throwing one finds it.
-/
def tryEach :
    List (α → Except Thrown α) → α → α
  | [], a => a
  | statement :: rest, a =>
      match statement a with
      | .error _ => a
      | .ok b => tryEach rest b

@[simp] theorem tryEach_nil
    (a : α) :
    tryEach [] a = a := rfl

@[simp] theorem tryEach_assign_ok
    (v : β)
    (set : α → β → α)
    (rest : List (α → Except Thrown α))
    (a : α) :
    tryEach (assign (.ok v) set :: rest) a =
      tryEach rest (set a v) := rfl

@[simp] theorem tryEach_assign_error
    (e : Thrown)
    (set : α → β → α)
    (rest : List (α → Except Thrown α))
    (a : α) :
    tryEach (assign (.error e) set :: rest) a = a := rfl

/- An assignment that does not throw has a value. -/
theorem ok_of_assign
    {value : Except Thrown β}
    {set : α → β → α}
    {a b : α}
    (hResult : assign value set a = .ok b) :
    ∃ v, value = .ok v ∧ b = set a v := by
  cases value with
  | error e => cases hResult
  | ok v =>
      cases hResult
      exact ⟨v, rfl, rfl⟩

/- A statement assigns fields that `view` does not show. -/
def Hidden
    {γ : Type}
    (view : α → γ)
    (statement : α → Except Thrown α) : Prop :=
  ∀ a b, statement a = .ok b → view b = view a

/- Assignments to fields outside the view are hidden. -/
theorem hidden_assign
    {γ : Type}
    {view : α → γ}
    {value : Except Thrown β}
    {set : α → β → α}
    (hSet : ∀ a v, view (set a v) = view a) :
    Hidden view (assign value set) := by
  intro a b hResult
  cases value with
  | error e => simp [assign] at hResult
  | ok v =>
      cases hResult
      exact hSet a v

/-
  What each statement of a body keeps, the body keeps,
  wherever it stops.
-/
theorem tryEach_invariant
    {I : α → Prop}
    {statements : List (α → Except Thrown α)}
    (hEach :
      ∀ statement ∈ statements, ∀ a b,
        I a → statement a = .ok b → I b)
    {a : α}
    (hStart : I a) :
    I (tryEach statements a) := by
  induction statements generalizing a with
  | nil => exact hStart
  | cons statement rest ih =>
      unfold tryEach
      cases hResult : statement a with
      | error _ => exact hStart
      | ok b =>
          exact ih
            (fun next hNext => hEach next (by simp [hNext]))
            (hEach statement (by simp) a b hStart hResult)

/-
  A body of hidden statements leaves the view as it was,
  wherever it stops.
-/
theorem tryEach_view
    {γ : Type}
    {view : α → γ}
    {statements : List (α → Except Thrown α)}
    (hHidden :
      ∀ statement ∈ statements, Hidden view statement)
    (a : α) :
    view (tryEach statements a) = view a := by
  refine @tryEach_invariant _ (fun b => view b = view a) _
    ?_ a rfl
  intro statement hMem b c hView hResult
  rw [hHidden statement hMem b c hResult, hView]

/-
  Texts of a map are assigned to fields outside the view and
  the rest of the body follows: the view is what the rest
  makes of it, unless one of the texts is no text.
-/
theorem tryEach_texts_append
    {γ : Type}
    {view : α → γ}
    {fields : List (String × Json)}
    {texts : List (String × (α → Option String → α))}
    {rest : List (α → Except Thrown α)}
    {a : α}
    {r : γ}
    (hSet :
      ∀ t ∈ texts, ∀ a v, view (t.2 a v) = view a)
    (hRest :
      ∀ b, view b = view a → view (tryEach rest b) = r) :
    view
        (tryEach
          (texts.map
              (fun t =>
                assign ((Json.obj fields).text t.1) t.2) ++
            rest)
          a) =
      if ∀ t ∈ texts,
          (Json.field fields t.1).isNullableText = true then
        r
      else
        view a := by
  induction texts generalizing a with
  | nil =>
      rw [if_pos (by simp)]
      exact hRest a rfl
  | cons t texts ih =>
      rw [List.map_cons, List.cons_append, Json.text_obj]
      have hHead := hSet t (by simp)
      cases hText : (Json.field fields t.1).asString with
      | error e =>
          have hNot := Json.isNullableText_of_error hText
          rw [tryEach_assign_error, if_neg]
          intro hAll
          rw [hAll t (by simp)] at hNot
          cases hNot
      | ok v =>
          have hNullable := Json.isNullableText_of_ok hText
          rw [tryEach_assign_ok,
            ih (fun t hMem => hSet t (by simp [hMem]))
              (fun b hView => hRest b (by
                rw [hView, hHead])),
            hHead]
          simp only [List.forall_mem_cons, hNullable,
            true_and]

/- The text of a caught error is never empty. -/
theorem Thrown.toText_ne_empty
    (e : Thrown) :
    e.toText ≠ "" := by
  intro hEmpty
  have hLength := congrArg String.length hEmpty
  cases e with
  | exception message =>
      cases message <;>
        simp [Thrown.toText] at hLength
  | error cls detail =>
      simp [Thrown.toText] at hLength

end Dart

------------------------------------------------------------
-- Loops That End At An Error
------------------------------------------------------------

namespace Dart

variable {α β : Type}

/- A loop that ends well has dealt with each item. -/
theorem forall₂_of_mapM
    {f : α → Except Thrown β}
    {xs : List α}
    {ys : List β}
    (hLoop : xs.mapM f = .ok ys) :
    List.Forall₂ (fun x y => f x = .ok y) xs ys := by
  induction xs generalizing ys with
  | nil =>
      cases hLoop
      exact .nil
  | cons x xs ih =>
      rw [List.mapM_cons] at hLoop
      cases hHead : f x with
      | error e => simp [hHead, bind, Except.bind] at hLoop
      | ok y =>
          cases hTail : xs.mapM f with
          | error e =>
              simp [hHead, hTail, bind, Except.bind] at hLoop
          | ok rest =>
              simp only [hHead, hTail, bind, Except.bind,
                pure, Except.pure, Except.ok.injEq] at hLoop
              subst hLoop
              exact .cons hHead (ih hTail)

/- A loop that deals with each item ends well. -/
theorem mapM_of_forall₂
    {f : α → Except Thrown β}
    {xs : List α}
    {ys : List β}
    (hEach : List.Forall₂ (fun x y => f x = .ok y) xs ys) :
    xs.mapM f = .ok ys := by
  induction hEach with
  | nil => rfl
  | cons hHead _ ih =>
      rw [List.mapM_cons, hHead, ih]
      rfl

end Dart
