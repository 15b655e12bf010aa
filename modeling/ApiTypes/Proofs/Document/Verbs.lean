import ApiTypes.Proofs.Document.Image
import ApiTypes.Proofs.Name.Words
import Mathlib.Data.List.Find

/-!
# The keys of verbs

A key under a path makes a method when its upper case is a verb.  So it does when it is the word
for the verb, whatever the case of its letters of ASCII, and also when letters beyond ASCII stand in
it for those that they share their upper case with: `Verb.ofKey?_eq`.  There are five such letters,
`Verb.spellings`.  The methods of a model are those of the keys of its document, one for each of
them, and all other keys under a path are passed over but for the shared parameters:
`Document.buildModel_makesVerbs`.
-/

namespace ApiTypes

namespace Verb

variable {c : Char} {key : List Char} {verb : Verb}

/-- Characters beyond ASCII, each with the letters of ASCII that it shares its upper case with: a
dotless i, a long s, and ligatures.  These are the ones whose upper case is found in a verb. -/
def spellings : List (Char × List Char) :=
  [('ı', ['i']), ('ſ', ['s']), ('ﬁ', ['f', 'i']), ('ﬅ', ['s', 't']), ('ﬆ', ['s', 't'])]

/-- The letters that a character is another spelling of, or else the character itself. -/
def spelling (c : Char) : List Char :=
  (spellings.lookup c).getD [c]

/-- Verbs are in letters of ASCII. -/
theorem toNat_of_mem_text (h : c ∈ verb.text.toList) :
  0 < c.toNat ∧ c.toNat < 128
  := by
  have hletters : ∀ verb ∈ all,
      verb.text.toList.all (fun c => decide (0 < c.toNat ∧ c.toNat < 128)) = true := by
    decide
  simpa using List.all_eq_true.mp (hletters verb verb.mem_all) c h

/-! ### Upper case of characters -/

theorem upperOf_of_isAscii (hc : Text.isAscii c = true) :
  Text.upperOf c = (spelling c).map Char.toUpper
  := Text.of_isAscii (P := fun c => Text.upperOf c = (spelling c).map Char.toUpper) (by decide) hc

theorem upperOf_of_mem_spellings :
  ∀ entry ∈ spellings, Text.upperOf entry.1 = (spelling entry.1).map Char.toUpper
  := by
  decide +kernel

/-- A character that moves to a letter of ASCII has another spelling. -/
theorem le_of_mem_upperShifts :
  ∀ shift ∈ Text.upperShifts,
    shift.run.last ≤ shift.run.first ∧ Char.ofNat shift.run.first ∈ spellings.map Prod.fst ∨
      128 ≤ shift.run.first + shift.distance
  := by
  decide +kernel

/-- A character that becomes letters of ASCII which follow one another in a verb has another
spelling. -/
theorem not_infix_of_mem_upperExpansions :
  ∀ entry ∈ Text.upperExpansions,
    Char.ofNat entry.1 ∈ spellings.map Prod.fst ∨
      (entry.2.map Char.ofNat).any (fun c => decide (128 ≤ c.toNat)) = true ∨
        ∀ verb ∈ all, ¬ entry.2.map Char.ofNat <:+: verb.text.toList
  := by
  decide +kernel

theorem toNat_ofNat (n : Nat) :
  (Char.ofNat n).toNat = n ∨ (Char.ofNat n).toNat = 0
  := by
  by_cases h : n.isValidChar
  · left
    rw [Char.ofNat, dif_pos h]
    rfl
  · right
    rw [Char.ofNat, dif_neg h]
    rfl

theorem not_singleton_infix (hc : 128 ≤ c.toNat) (verb : Verb) :
  ¬ [c] <:+: verb.text.toList
  := by
  intro h
  have hletter := toNat_of_mem_text (h.subset List.mem_cons_self)
  omega

theorem not_infix_of_shifted? {n : Nat} (hother : c ∉ spellings.map Prod.fst)
    (h : Text.shifted? Text.upperShifts c.toNat = some n) (verb : Verb) :
  ¬ [Char.ofNat n] <:+: verb.text.toList
  := by
  obtain ⟨shift, hfound, rfl⟩ := Option.map_eq_some_iff.mp h
  have hrun := List.find?_some hfound
  simp only [Text.Run.contains, Bool.and_eq_true, decide_eq_true_eq] at hrun
  obtain ⟨⟨hfirst, hlast⟩, -⟩ := hrun
  have hmem := List.mem_of_find?_eq_some hfound
  rcases le_of_mem_upperShifts shift hmem with ⟨hsingle, hspelling⟩ | hle
  · absurd hspelling
    rwa [Nat.le_antisymm hfirst (hlast.trans hsingle), Char.ofNat_toNat]
  · intro hpart
    have hletter := toNat_of_mem_text (hpart.subset List.mem_cons_self)
    have hmoved := toNat_ofNat ((c.toNat : Int) + shift.distance).toNat
    omega

/-- The upper case of any other character is not found in a verb. -/
theorem not_upperOf_infix (hc : ¬ Text.isAscii c = true) (hother : c ∉ spellings.map Prod.fst)
    (verb : Verb) :
  ¬ Text.upperOf c <:+: verb.text.toList
  := by
  have hbeyond : 128 ≤ c.toNat := by simpa [Text.isAscii] using hc
  rw [Text.upperOf, if_neg hc, Text.mapped]
  split
  · next codes hcodes =>
    obtain ⟨before, after, htable, -⟩ := List.lookup_eq_some_iff.mp hcodes
    have hmem : (c.toNat, codes) ∈ Text.upperExpansions := by simp [htable]
    rcases not_infix_of_mem_upperExpansions _ hmem with hspelling | hany | hpart
    · absurd hspelling
      rwa [Char.ofNat_toNat]
    · intro h
      obtain ⟨d, hd, hle⟩ := List.any_eq_true.mp hany
      have hletter := toNat_of_mem_text (h.subset hd)
      rw [decide_eq_true_iff] at hle
      omega
    · apply hpart verb verb.mem_all
  · cases hshift : Text.shifted? Text.upperShifts c.toNat with
    | none => apply not_singleton_infix hbeyond
    | some n => apply not_infix_of_shifted? hother hshift

theorem toUpper_of_le (hc : 128 ≤ c.toNat) :
  c.toUpper = c
  := by
  unfold Char.toUpper
  rw [dif_neg]
  simp only [UInt32.le_iff_toNat_le]
  rintro ⟨-, hz⟩
  have hlast : c.toNat ≤ 122 := hz
  omega

theorem spelling_of_notMem (hother : c ∉ spellings.map Prod.fst) :
  spelling c = [c]
  := by
  rw [spelling, List.lookup_eq_none_iff.mpr, Option.getD_none]
  intro entry hentry
  rw [bne_iff_ne]
  rintro rfl
  exact hother (List.mem_map_of_mem hentry)

/-- Where the upper case of a character is found in a verb, so is the one of its spelling, and the
other way round. -/
theorem upperOf_eq_or_not_infix (c : Char) :
  Text.upperOf c = (spelling c).map Char.toUpper ∨
    ∀ verb : Verb, ¬ Text.upperOf c <:+: verb.text.toList ∧
      ¬ (spelling c).map Char.toUpper <:+: verb.text.toList
  := by
  by_cases hc : Text.isAscii c = true
  · left
    apply upperOf_of_isAscii hc
  · by_cases hspelling : c ∈ spellings.map Prod.fst
    · left
      obtain ⟨entry, hentry, rfl⟩ := List.mem_map.mp hspelling
      apply upperOf_of_mem_spellings entry hentry
    · right
      intro verb
      use not_upperOf_infix hc hspelling verb
      have hbeyond : 128 ≤ c.toNat := by simpa [Text.isAscii] using hc
      rw [spelling_of_notMem hspelling, List.map_singleton, toUpper_of_le hbeyond]
      apply not_singleton_infix hbeyond

/-! ### Words -/

/-- Texts put together in two ways are the same word when they are made of the same parts wherever
one is found in the word. -/
theorem flatMap_eq_of_infix {f g : Char → List Char} {word : List Char}
    (h : ∀ c, f c <:+: word → f c = g c) (hkey : word = key.flatMap f) :
  word = key.flatMap g
  := by
  rw [hkey]
  apply List.flatMap_congr
  intro c hc
  apply h
  rw [hkey, List.flatMap_def]
  apply List.infix_of_mem_flatten
  apply List.mem_map_of_mem hc

/-- The verb that a word is, whatever the case of its letters of ASCII. -/
def ofWord? (word : List Char) : Option Verb :=
  all.find? fun verb => verb.text.toList == word.map Char.toUpper

theorem flatMap_spelling_of_notMem {word : List Char}
    (h : ∀ c ∈ word, c ∉ spellings.map Prod.fst) :
  word.flatMap spelling = word
  := by
  rw [List.flatMap_congr fun c hc => spelling_of_notMem (h c hc), List.flatMap_singleton']

theorem ofKey?_of_toUpper {key : String} {verb : Verb}
    (h : Text.toUpper key.toList = verb.text.toList) :
  ofKey? key = some verb
  := by
  cases hfound : ofKey? key with
  | none =>
    have hne := List.find?_eq_none.mp hfound verb verb.mem_all
    simp [h] at hne
  | some other =>
    rw [eq_of_text_eq (String.toList_injective ((toUpper_of_ofKey? hfound).symm.trans h))]

theorem ofKey?_eq (key : String) :
  ofKey? key = ofWord? (key.toList.flatMap spelling)
  := by
  apply List.find?_congr
  intro verb _
  rw [Bool.eq_iff_iff, beq_iff_eq, beq_iff_eq, List.map_flatMap, Text.toUpper]
  constructor
  · apply flatMap_eq_of_infix
    intro c hpart
    rcases upperOf_eq_or_not_infix c with heq | hnot
    · exact heq
    · absurd hpart
      apply (hnot verb).1
  · apply flatMap_eq_of_infix
    intro c hpart
    rcases upperOf_eq_or_not_infix c with heq | hnot
    · exact heq.symm
    · absurd hpart
      apply (hnot verb).2

end Verb

namespace Document

/-! ### Methods -/

/-- The keys of the object under a path, each with its path, unless the path is an extension. -/
def memberKeysOfPath (entry : String × Json) : List (String × String) :=
  if isExtension entry.1 then []
  else (Json.membersOf (some entry.2)).map fun member => (entry.1, member.1)

/-- The keys of the objects under paths, each with its path. -/
def memberKeys (document : Json) : List (String × String) :=
  (Json.membersOf (document.field? "paths")).flatMap memberKeysOfPath

/-- The verbs that keys under paths are taken for, each with its path. -/
def verbsOf (verb? : String → Option Verb) (document : Json) : List (String × Verb) :=
  (memberKeys document).filterMap fun (path, key) => (verb? key).map (path, ·)

/-- The path and the verb of a member. -/
def Site.verb? (site : Site) : Option (String × Verb) :=
  (Verb.ofKey? site.key).map (site.path, ·)

theorem filterMap_sitesOfPath (entry : String × Json) :
  (sitesOfPath entry).filterMap Site.verb? =
    (memberKeysOfPath entry).filterMap fun (path, key) => (Verb.ofKey? key).map (path, ·)
  := by
  rw [sitesOfPath, memberKeysOfPath]
  split
  · rfl
  · rw [List.filterMap_filterMap, List.filterMap_map]
    apply List.filterMap_congr
    intro member _
    rw [isVerbKey_eq_isSome, Function.comp_apply]
    cases hverb : Verb.ofKey? member.1 <;> simp [Site.verb?, hverb]

theorem filterMap_sites (document : Json) :
  (sites document).filterMap Site.verb? = verbsOf Verb.ofKey? document
  := by
  rw [sites, verbsOf, memberKeys, List.filterMap_flatMap, List.filterMap_flatMap]
  apply List.flatMap_congr
  intro entry _
  apply filterMap_sitesOfPath

theorem filterMap_eq_of_isMethod {document : Json} {options : ModelOptions} {sites : List Site}
    {methods : List Method} (h : List.Forall₂ (IsMethod document options) sites methods) :
  sites.filterMap Site.verb? = methods.map fun method => (method.path, method.verb)
  := by
  induction h with
  | nil => rfl
  | cons hmethod _ ih =>
    rw [List.filterMap_cons, Site.verb?, Verb.ofKey?_of_toUpper hmethod.verb_eq.symm, ih,
      List.map_cons, hmethod.path_eq]
    rfl

/-! ### Other keys -/

/-- The test for a member under a path that has a say in the methods: it is an operation, or the
list of the shared parameters. -/
def isRead (member : String × Json) : Bool :=
  (Verb.ofKey? member.1).isSome || member.1 == "parameters"

/-- The document without the members under its paths that have no say in the methods. -/
def withoutUnread (document : Json) : Json :=
  mapPaths (fun entry => (entry.1, entry.2.mapMembers (List.filter isRead))) document

theorem sharedParameters_filter (item : Json.Members) :
  Builder.sharedParameters (item.filter isRead) = Builder.sharedParameters item
  := by
  unfold Builder.sharedParameters
  rw [Named.get?_filter]
  intro value
  simp [isRead]

theorem methodsOfPath_filter (builder : Builder) (entry : String × Json) :
  (builder.methodsOfPath (entry.1, entry.2.mapMembers (List.filter isRead))).outcome =
    (builder.methodsOfPath entry).outcome
  := by
  obtain ⟨path, value⟩ := entry
  cases value with
  | object item =>
    simp only [Json.mapMembers, Builder.methodsOfPath]
    split
    · rfl
    · rw [Builder.outcome_flatCollect, Builder.outcome_flatCollect, sharedParameters_filter,
        Outcome.flatCollect_filter]
      intro member _ hmember
      rw [isRead, Bool.or_eq_false_iff, Option.isSome_eq_false_iff,
        Option.isNone_iff_eq_none] at hmember
      simp [Builder.methodsOfMember, hmember.1]
  | null | bool | number | string | array => rfl

section

variable {f : String × Json → String × Json}
  (hf : ∀ (builder : Builder) (entry : String × Json),
    (builder.methodsOfPath (f entry)).outcome = (builder.methodsOfPath entry).outcome)

include hf

theorem outcome_model_mapPaths (envelope : Envelope) (options : ModelOptions) :
  (Builder.ofEnvelope (envelope.mapPaths f) options).model.outcome =
    (Builder.ofEnvelope envelope options).model.outcome
  := by
  simp only [Builder.model, Report.outcome_bind, Builder.outcome_flatCollect]
  apply bind_congr
  intro definitions
  -- The methods are built with other paths, which nothing but the model itself looks at.
  change Outcome.flatCollect _ (envelope.paths.map f) >>= _ = _
  rw [Outcome.flatCollect_map, funext (hf (Builder.ofEnvelope (envelope.mapPaths f) options))]
  rfl

/-- The outcome is the same for other paths that have the same methods. -/
theorem outcome_buildModel_mapPaths (document : Json) (options : ModelOptions) :
  (buildModel (mapPaths f document) options).outcome = (buildModel document options).outcome
  := by
  rw [buildModel, buildModel, checkVersion_mapPaths]
  simp only [readEnvelope, conforming, Envelope.ofMembers_mapPaths, Report.outcome_bind,
    Report.outcome_ofExcept]
  cases Envelope.ofMembers (document.asObject?.getD []) with
  | error mismatch => rfl
  | ok envelope =>
    simp only [Except.map, Except.mapError, Outcome.ok_bind]
    rw [outcome_model_mapPaths hf]

end

theorem outcome_buildModel_withoutUnread (document : Json) (options : ModelOptions) :
  (buildModel (withoutUnread document) options).outcome = (buildModel document options).outcome
  := by
  apply outcome_buildModel_mapPaths
  apply methodsOfPath_filter

/-- The methods of a model are those of the keys under paths that are words for verbs once the
letters in them are spelled out, one for each key.  They are those of the keys that are words for
verbs as they stand, when none of those letters is found in any.  All other keys, whatever their
values are, have no say in the model, but for the shared parameters of a path. -/
theorem buildModel_makesVerbs {document : Json} {options : ModelOptions} {model : Model}
    (hdocument : document.isWellFormed = true)
    (h : (buildModel document options).outcome = .ok model) :
  model.methods.map (fun method => (method.path, method.verb)) =
      verbsOf (fun key => Verb.ofWord? (key.toList.flatMap Verb.spelling)) document ∧
    ((∀ entry ∈ memberKeys document, ∀ c ∈ entry.2.toList, c ∉ Verb.spellings.map Prod.fst) →
      model.methods.map (fun method => (method.path, method.verb)) =
        verbsOf (fun key => Verb.ofWord? key.toList) document) ∧
    ∀ other, withoutUnread other = withoutUnread document →
      (buildModel other options).outcome = .ok model
  := by
  have hmakes : model.methods.map (fun method => (method.path, method.verb)) =
      verbsOf (fun key => Verb.ofWord? (key.toList.flatMap Verb.spelling)) document := by
    rw [← filterMap_eq_of_isMethod (isImage_of_buildModel hdocument h).methods, filterMap_sites]
    simp only [verbsOf, Verb.ofKey?_eq]
  refine ⟨hmakes, ?_, ?_⟩
  · intro hplain
    rw [hmakes]
    apply List.filterMap_congr
    intro entry hentry
    simp only
    rw [Verb.flatMap_spelling_of_notMem (hplain entry hentry)]
  · intro other hother
    rw [← outcome_buildModel_withoutUnread, hother, outcome_buildModel_withoutUnread, h]

/-- The keys of the pets are a verb that makes a method, and others that do not. -/
theorem buildModel_makesVerbs_petShop :
  ∃ model, (buildModel petShop).outcome = .ok model ∧
    model.methods.map (fun method => (method.path, method.verb)) =
      verbsOf (fun key => Verb.ofWord? key.toList) petShop ∧
    verbsOf (fun key => Verb.ofWord? key.toList) petShop = [("/pets", .get)] ∧
    (buildModel (withoutUnread petShop)).outcome = .ok model
  := by
  have hdocument : petShop.isWellFormed = true := by decide
  have h : (buildModel petShop).outcome = .ok _ := rfl
  have hplain : ∀ entry ∈ memberKeys petShop,
      entry.2.toList.all (fun c => decide (c ∉ Verb.spellings.map Prod.fst)) = true := by
    decide
  obtain ⟨-, hwords, hunread⟩ := buildModel_makesVerbs hdocument h
  refine ⟨_, h, hwords ?_, rfl, hunread _ rfl⟩
  intro entry hentry c hc
  apply of_decide_eq_true
  apply List.all_eq_true.mp (hplain entry hentry) c hc

/-- A document whose only key under a path is a verb but for its dotless i. -/
def dotlessShop : Json :=
  .object [("swagger", .string "2.0"), ("paths", .object [("/p", .object [("lınk", .object [])])])]

/-- Keys that are no words for verbs can make methods all the same. -/
theorem not_makesVerbs_dotlessShop :
  ¬ ∀ (document : Json) (options : ModelOptions) (model : Model),
    document.isWellFormed = true → (buildModel document options).outcome = .ok model →
      model.methods.map (fun method => (method.path, method.verb)) =
        verbsOf (fun key => Verb.ofWord? key.toList) document
  := by
  intro h
  have hmodel : (buildModel dotlessShop).outcome = .ok _ := rfl
  absurd h dotlessShop {} _ (by decide) hmodel
  decide

end Document

end ApiTypes
