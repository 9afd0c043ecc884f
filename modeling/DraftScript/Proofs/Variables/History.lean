/-
# Tables of variables over their histories

Whatever is asked of a table, and in whatever order, it answers as the map from names
to texts does that it stands for: `Meaning.call` says what one call answers and does to
that map, without a list of bindings and without an order of names.

A table changes with every substitution, since it keeps the order in which it tried the
names; `get?_call` says that each call nevertheless acts on the map alone, and
`replies_eq_replies_get?` that a whole history of calls is answered from it.
-/

import DraftScript.Proofs.Variables.Expansion
import Mathlib.Logic.Function.Basic

namespace DraftScript
namespace Variables

/-- What may be asked of a table. -/
inductive Call where
  | define (name text : Chars)
  | clear
  | get (name : Chars)
  | substitute (text : Chars)
deriving DecidableEq, Repr

/-- What is answered: that it is done, why it is not, the text of a name, or the text of
a substitution. -/
inductive Reply where
  | done
  | refused (message : Chars)
  | bound (text : Option Chars)
  | substituted (text : Chars)
deriving DecidableEq, Repr

/-- The answer to a call, and the table afterwards. -/
def call (v : Variables) : Call → Reply × Variables
  | .define name text =>
    match v.define? name text with
    | some (v', _) => (.done, v')
    | none => (.refused (notAName name), v)
  | .clear => (.done, v.clear)
  | .get name => (.bound (v.get? name), v)
  | .substitute text => (.substituted (v.substitute text), v.afterSubstitute text)

/-- The answers to calls, one after another. -/
def replies (v : Variables) : List Call → List Reply
  | [] => []
  | c :: cs => (v.call c).1 :: replies (v.call c).2 cs

/-- The table after calls, one after another. -/
def after (v : Variables) (cs : List Call) : Variables := cs.foldl (fun v c => (v.call c).2) v

/-- The texts of names, whatever table holds them. -/
abbrev Meaning := Chars → Option Chars

namespace Meaning

/-- The answer to a call, and the texts of the names afterwards. -/
def call (m : Meaning) : Call → Reply × Meaning
  | .define name text =>
    if isName name then (.done, Function.update m name (some text))
    else (.refused (notAName name), m)
  | .clear => (.done, fun _ => none)
  | .get name => (.bound (m name), m)
  | .substitute text => (.substituted (expand m text), m)

/-- The answers to calls, one after another. -/
def replies (m : Meaning) : List Call → List Reply
  | [] => []
  | c :: cs => (m.call c).1 :: replies (m.call c).2 cs

/-- The texts of the names after calls, one after another. -/
def after (m : Meaning) (cs : List Call) : Meaning := cs.foldl (fun m c => (m.call c).2) m

/-- A longer name that is bound later, a text with a `$` in it, and a name that is none. -/
example : replies (fun _ => none) [.define "a" "$b", .substitute "$ab$a", .define "ab" "2",
      .define "1" "x", .substitute "$ab$$a"] =
    [.done, .substituted "$bb$b", .done, .refused (notAName "1"), .substituted "2$$b"] := by
  decide +kernel

end Meaning

theorem get?_define? {v v' : Variables} {name text : Chars} {e : Event}
    (h : v.define? name text = some (v', e)) :
    isName name = true ∧ v'.get? = Function.update v.get? name (some text) := by
  rw [define?, Option.ite_none_right_eq_some, Option.some.injEq, Prod.mk.injEq] at h
  obtain ⟨hn, rfl, _⟩ := h
  refine ⟨hn, funext fun x => ?_⟩
  simp only [get?, Assoc.get?_put, Function.update_apply, eq_comm]

theorem define?_eq_none_iff {v : Variables} {name text : Chars} :
    v.define? name text = none ↔ isName name = false := by
  simp [define?]

/-- **One call is answered from the map and acts on the map.** -/
theorem get?_call (v : Variables) (c : Call) :
    (v.call c).1 = (Meaning.call v.get? c).1 ∧ (v.call c).2.get? = (Meaning.call v.get? c).2 := by
  cases c with
  | define name text =>
    cases h : v.define? name text with
    | none =>
      have hn := define?_eq_none_iff.1 h
      simp [call, Meaning.call, h, hn]
    | some p =>
      obtain ⟨hn, hg⟩ := get?_define? (e := p.2) h
      simp [call, Meaning.call, h, hn, hg]
  | clear => exact ⟨rfl, rfl⟩
  | get name => exact ⟨rfl, rfl⟩
  | substitute text =>
    refine ⟨?_, funext fun n => ?_⟩
    · simp only [call, Meaning.call, substitute_eq_expand]
    · simp only [call, Meaning.call, get?, bindings_afterSubstitute]

/-- **A table answers every history of calls as its map does,** and what it stands for
afterwards is what the map has become. -/
theorem replies_eq_replies_get? (v : Variables) (cs : List Call) :
    v.replies cs = Meaning.replies v.get? cs ∧ (v.after cs).get? = Meaning.after v.get? cs := by
  induction cs generalizing v with
  | nil => exact ⟨rfl, rfl⟩
  | cons c cs ih =>
    obtain ⟨hr, hm⟩ := get?_call v c
    obtain ⟨ihr, ihm⟩ := ih (v.call c).2
    rw [hm] at ihr ihm
    exact ⟨by rw [replies, Meaning.replies, hr, ihr], ihm⟩

end Variables
end DraftScript
