/-
# Variables

A variable stands for a raw text. Binding a bound name replaces its text and keeps its
place. Substitution reads a text once from left to right: at a `$` that a bound name
follows, the longest such name and the `$` give way to the bound text, which is not
looked at again; every other character stays.

The names are tried one after another, the longer ones first. That order is made by the
first substitution that needs it and kept until the bindings change.
-/

import DraftScript.Assoc
import DraftScript.Chars.Quoted
import DraftScript.Event

namespace DraftScript

/-- Whether a character may begin a name: an ASCII letter or the underscore. -/
def isNameStart (c : Char) : Bool := c.isAlpha || c == '_'

/-- Whether a character may continue a name: an ASCII letter or digit or the underscore. -/
def isNameChar (c : Char) : Bool := c.isAlphanum || c == '_'

/-- Whether a text is a name. -/
def isName : Chars → Bool
  | [] => false
  | c :: r => isNameStart c && r.all isNameChar

/-- Names in the order in which they are tried: the longer ones first, of equally long
ones the lesser. -/
def searchOrder (names : List Chars) : List Chars :=
  names.mergeSort fun a b =>
    b.length < a.length || (a.length == b.length && !decide (b < a))

/-- Bound names with their texts, in the order of their first binding, and the order in
which the names are tried, once a substitution has made it. -/
structure Variables where
  bindings : Assoc Chars Chars := []
  order? : Option (List Chars) := none
  order_eq : ∀ ns ∈ order?, ns = searchOrder bindings.keys := by simp
deriving DecidableEq, Repr

namespace Variables

/-- The text bound to a name. -/
def get? (v : Variables) (name : Chars) : Option Chars := v.bindings.get? name

/-- The event of binding a name. -/
def bindEvent (v : Variables) (name text : Chars) : Event :=
  match v.get? name with
  | some old => if old = text then .variableBound name text else .variableRebound name text old
  | none => .variableBound name text

/-- Binds a name, and forgets the order of the names; a text that is no name is not bound. -/
def define? (v : Variables) (name text : Chars) : Option (Variables × Event) :=
  if isName name then some ({ bindings := v.bindings.put name text }, v.bindEvent name text)
  else none

/-- What is said of a text that is no name. -/
def notAName (t : Chars) : Chars := "invalid variable name: " ++ Chars.quoted t

/-- No bindings, and no order of names. -/
def empty : Variables := {}

/-- Forgets all bindings. -/
def clear (_ : Variables) : Variables := empty

/-- The names in the order in which they are tried: the kept one, if there is one. -/
def order (v : Variables) : List Chars := v.order?.getD (searchOrder v.bindings.keys)

theorem order_eq_searchOrder (v : Variables) : v.order = searchOrder v.bindings.keys := by
  cases h : v.order? with
  | none => simp [order, h]
  | some ns => simp [order, h, ← v.order_eq ns h]

/-- A name that is tried is bound. -/
theorem get?_isSome_of_mem_order {v : Variables} {n : Chars} (h : n ∈ v.order) :
    (v.get? n).isSome := by
  rw [order_eq_searchOrder, searchOrder, List.mem_mergeSort] at h
  exact Assoc.has_iff_mem_keys.2 h

/-- The text of a name that is tried. -/
def textOf (v : Variables) (n : Chars) (h : n ∈ v.order) : Chars :=
  (v.get? n).get (get?_isSome_of_mem_order h)

/-- The text in which every `$` that one of the names follows gives way, with the first
of them that does, to the text of that name. -/
def replaceNames (names : List Chars) (textOf : ∀ n ∈ names, Chars) : Chars → Chars
  | [] => []
  | c :: r =>
    if c = '$' then
      match h : names.find? (·.isPrefixOf r) with
      | some n =>
        textOf n (List.mem_of_find?_eq_some h) ++ replaceNames names textOf (r.drop n.length)
      | none => c :: replaceNames names textOf r
    else c :: replaceNames names textOf r
termination_by t => t.length
decreasing_by
  all_goals simp only [List.length_drop, List.length_cons]; omega

/-- Whether a substitution in a text tries names at all. -/
def searches (v : Variables) (t : Chars) : Bool := !v.bindings.isEmpty && t.contains '$'

/-- The text with every `$name` of a bound name replaced. -/
def substitute (v : Variables) (t : Chars) : Chars :=
  if v.searches t then replaceNames v.order v.textOf t else t

/-- The variables after a substitution in a text: they keep the order of the names. -/
def afterSubstitute (v : Variables) (t : Chars) : Variables :=
  if v.searches t then
    { v with
      order? := some v.order
      order_eq := by
        intro ns h
        rw [← Option.some.inj h]
        exact v.order_eq_searchOrder }
  else v

/-- A substitution binds nothing. -/
@[simp] theorem bindings_afterSubstitute (v : Variables) (t : Chars) :
    (v.afterSubstitute t).bindings = v.bindings := by
  unfold afterSubstitute
  split <;> rfl

/-- The text of a binding. -/
def bindingText (b : Chars × Chars) : Chars := "$" ++ b.1 ++ " = " ++ b.2

end Variables
end DraftScript
