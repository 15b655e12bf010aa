import ApiTypes.Text.CaseMap

/-!
# Verbs

A `Verb` is one of the words under a path that make a method.  `Verb.ofKey?` recognises it
whatever the case of its letters.
-/

namespace ApiTypes

/-- A word under a path that makes a method. -/
inductive Verb where
  | get
  | post
  | put
  | delete
  | patch
  | copy
  | head
  | options
  | link
  | unlink
  | purge
  | lock
  | unlock
  | propfind
deriving DecidableEq

namespace Verb

/-- The verbs. -/
def all : List Verb :=
  [get, post, put, delete, patch, copy, head, options, link, unlink, purge, lock, unlock, propfind]

/-- The upper case form of a verb. -/
def text : Verb → String
  | get => "GET"
  | post => "POST"
  | put => "PUT"
  | delete => "DELETE"
  | patch => "PATCH"
  | copy => "COPY"
  | head => "HEAD"
  | options => "OPTIONS"
  | link => "LINK"
  | unlink => "UNLINK"
  | purge => "PURGE"
  | lock => "LOCK"
  | unlock => "UNLOCK"
  | propfind => "PROPFIND"

/-- The verb whose upper case form is the one of a key. -/
def ofKey? (key : String) : Option Verb :=
  all.find? fun verb => verb.text.toList == Text.toUpper key.toList

theorem mem_all (verb : Verb) :
  verb ∈ all
  := by
  cases verb <;> decide

theorem eq_of_text_eq {verb other : Verb} (h : verb.text = other.text) :
  verb = other
  := by
  have hall : ∀ verb ∈ all, ∀ other ∈ all, verb.text = other.text → verb = other := by decide
  apply hall verb verb.mem_all other other.mem_all h

theorem toUpper_of_ofKey? {key : String} {verb : Verb} (h : ofKey? key = some verb) :
  Text.toUpper key.toList = verb.text.toList
  := by
  have := List.find?_some h
  simp_all

end Verb

end ApiTypes
