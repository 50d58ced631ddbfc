import Fixtures.Factory

/-!
# Filled templates

A template with a placeholder gives a text of its own to every index (`Template.fill_inj`).  All
placeholders stand for the same digits, so the length of the text gives the number of digits, and
the text then shows them where the first placeholder was.

No placeholder is left in a filled text (`Template.not_hasPlaceholder_fill`). The braces and the
letter of a new one would have to be plain characters of the template, next to each other, and
then they are a placeholder of the template.
-/

namespace Fixtures

namespace Template

/-- There is a placeholder in the template. -/
def HasPlaceholder (template : String) : Prop := ['\x7b', 'n', '\x7d'] <:+: template.toList

instance (template : String) : Decidable (HasPlaceholder template) :=
  inferInstanceAs (Decidable (_ <:+: _))

/-- Besides its plain characters a text has as many times the digits as there are placeholders. -/
theorem length_fillChars (template : List Char) :
    ∃ plain count, ∀ digits,
      (fillChars digits template).length = plain + count * digits.length := by
  fun_induction fillChars [] template with
  | case1 rest ih =>
    obtain ⟨plain, count, h⟩ := ih
    refine ⟨plain, count + 1, fun digits => ?_⟩
    rw [fillChars, List.length_append, h, Nat.add_one_mul]
    omega
  | case2 c rest hplain ih =>
    obtain ⟨plain, count, h⟩ := ih
    refine ⟨plain + 1, count, fun digits => ?_⟩
    rw [fillChars, List.length_cons, h]
    · omega
    · exact hplain
  | case3 => exact ⟨0, 0, fun digits => by rw [fillChars, Nat.zero_mul]; rfl⟩

theorem fillChars_inj {template digits digits' : List Char}
    (hp : ['\x7b', 'n', '\x7d'] <:+: template)
    (h : fillChars digits template = fillChars digits' template) : digits = digits' := by
  fun_induction fillChars digits template with
  | case1 rest ih =>
    rw [fillChars] at h
    obtain ⟨plain, count, hlength⟩ := length_fillChars rest
    have htotal := congrArg List.length h
    rw [List.length_append, List.length_append, hlength, hlength] at htotal
    -- As long as a text is, there are as many digits in it.
    have hmul : (count + 1) * digits.length = (count + 1) * digits'.length := by
      rw [Nat.add_one_mul, Nat.add_one_mul]
      omega
    have hdigits := Nat.eq_of_mul_eq_mul_left (Nat.succ_pos count) hmul
    exact (List.append_inj h hdigits).1
  | case2 c rest hplain ih =>
    rw [fillChars] at h
    · apply ih _ (List.cons.inj h).2
      -- The placeholder does not start here, so it is in the rest.
      rcases List.infix_cons_iff.mp hp with ⟨tail, ht⟩ | hrest
      · cases ht
        exact (hplain tail rfl rfl).elim
      · exact hrest
    · exact hplain
  | case3 => exact absurd (List.eq_nil_of_infix_nil hp) (List.cons_ne_nil _ _)

theorem toDigits_inj {i j : Nat} (h : Nat.toDigits 10 i = Nat.toDigits 10 j) : i = j := by
  have hv := congrArg (fun digits => Nat.ofDigitChars 10 digits 0) h
  simpa using hv

/-- A template with a placeholder tells the indices apart. -/
theorem fill_inj {template : String} (hp : HasPlaceholder template) {i j : Nat}
    (h : fill template i = fill template j) : i = j :=
  toDigits_inj (fillChars_inj hp (String.ofList_injective h))

example : fill "u\x7bn\x7d-\x7bn\x7d" 12 = "u12-12" := by decide +kernel

/-- Where a filled text starts with a character that is no digit, the template does too. -/
theorem fillChars_eq_cons {digits template rest : List Char} {c : Char} (hdigits : digits ≠ [])
    (hc : c ∉ digits) (h : fillChars digits template = c :: rest) :
    ∃ tail, template = c :: tail ∧ fillChars digits tail = rest := by
  fun_cases fillChars digits template with
  | case1 tail =>
    rw [fillChars] at h
    obtain ⟨d, more, rfl⟩ := List.exists_cons_of_ne_nil hdigits
    exact absurd (List.cons.inj h).1.symm (List.ne_of_not_mem_cons hc)
  | case2 d tail hplain =>
    rw [fillChars] at h
    · obtain ⟨rfl, htail⟩ := List.cons.inj h
      exact ⟨tail, rfl, htail⟩
    · exact hplain
  | case3 =>
    rw [fillChars] at h
    exact absurd h.symm (List.cons_ne_nil _ _)

/-- What starts with a character that is no digit is not found among digits. -/
theorem infix_of_infix_append {digits rest marker : List Char} {c : Char} (hc : c ∉ digits)
    (h : c :: marker <:+: digits ++ rest) : c :: marker <:+: rest := by
  induction digits with
  | nil => exact h
  | cons d digits ih =>
    rcases List.infix_cons_iff.mp h with hhere | hlater
    · exact absurd (List.cons_prefix_cons.mp hhere).1 (List.ne_of_not_mem_cons hc)
    · exact ih (List.not_mem_of_not_mem_cons hc) hlater

/-- Digits put in place of all placeholders make no new one. -/
theorem not_infix_fillChars {digits : List Char} (hne : digits ≠ [])
    (hdigits : ∀ c ∈ digits, c.isDigit = true) (template : List Char) :
    ¬ ['\x7b', 'n', '\x7d'] <:+: fillChars digits template := by
  have hopen : '\x7b' ∉ digits := fun h => absurd (hdigits _ h) (by decide)
  have hname : 'n' ∉ digits := fun h => absurd (hdigits _ h) (by decide)
  have hclose : '\x7d' ∉ digits := fun h => absurd (hdigits _ h) (by decide)
  fun_induction fillChars digits template with
  | case1 rest ih => exact fun h => ih (infix_of_infix_append hopen h)
  | case2 c rest hplain ih =>
    intro h
    rcases List.infix_cons_iff.mp h with ⟨tail, ht⟩ | hrest
    · -- The text shows a placeholder here only if the template did.
      obtain ⟨rfl, hname'⟩ := List.cons.inj ht
      obtain ⟨more, rfl, hclose'⟩ := fillChars_eq_cons hne hname hname'.symm
      obtain ⟨_, rfl, -⟩ := fillChars_eq_cons hne hclose hclose'
      exact hplain _ rfl rfl
    · exact ih hrest
  | case3 => exact fun h => absurd (List.eq_nil_of_infix_nil h) (List.cons_ne_nil _ _)

/-- Filling a template leaves nothing to fill. -/
theorem not_hasPlaceholder_fill (template : String) (index : Nat) :
    ¬ HasPlaceholder (fill template index) := by
  unfold HasPlaceholder fill
  rw [String.toList_ofList]
  exact not_infix_fillChars Nat.toDigits_ne_nil
    (fun _ hc => Nat.isDigit_of_mem_toDigits (by decide) (by decide) hc) _

theorem fillChars_of_plain {template : List Char}
    (h : ¬ ['\x7b', 'n', '\x7d'] <:+: template) (digits : List Char) :
    fillChars digits template = template := by
  fun_induction fillChars digits template with
  | case1 rest => exact absurd (List.prefix_append _ rest).isInfix h
  | case2 c rest hplain ih => rw [ih fun hrest => h (List.infix_cons_iff.mpr (.inr hrest))]
  | case3 => rfl

/-- A text without placeholders is filled as it is. -/
theorem fill_of_not_hasPlaceholder {template : String} (h : ¬ HasPlaceholder template)
    (index : Nat) : fill template index = template := by
  unfold fill
  rw [fillChars_of_plain h, String.ofList_toList]

end Template

/-- A template tells all indices apart if there is a placeholder in it, and is a fixed text if
there is none. No placeholder is left in the text it gives, which is therefore a fixed text. -/
theorem Expression.evaluate_template (text : String) :
    (Template.HasPlaceholder text → ∀ i j, i ≠ j → ∃ first second,
      (Expression.template text).evaluate i = .ok (.text first) ∧
      (Expression.template text).evaluate j = .ok (.text second) ∧ first ≠ second) ∧
    (¬ Template.HasPlaceholder text →
      ∀ i, (Expression.template text).evaluate i = .ok (.text text)) ∧
    ∀ i, ∃ filled, (Expression.template text).evaluate i = .ok (.text filled) ∧
      ¬ Template.HasPlaceholder filled ∧
      ∀ j, (Expression.template filled).evaluate j = .ok (.text filled) := by
  refine ⟨fun hp i j hne => ⟨_, _, rfl, rfl, fun h => hne (Template.fill_inj hp h)⟩,
    fun hp i => ?_, fun i => ?_⟩
  · rw [evaluate, Template.fill_of_not_hasPlaceholder hp]
  · have hfilled := Template.not_hasPlaceholder_fill text i
    refine ⟨_, rfl, hfilled, fun j => ?_⟩
    rw [evaluate, Template.fill_of_not_hasPlaceholder hfilled]

/-- The digits of the index come between the braces around the placeholder, so they do not close
up to another one. -/
theorem Expression.evaluate_template_of_nested_braces :
    let text := "\x7b\x7bn\x7dn\x7d"
    Template.HasPlaceholder text ∧
      (∃ first second, (Expression.template text).evaluate 1 = .ok (.text first) ∧
        (Expression.template text).evaluate 11 = .ok (.text second) ∧ first ≠ second) ∧
      ¬ Template.HasPlaceholder "\x7bn1\x7d" ∧
      (Expression.template "\x7bn1\x7d").evaluate 7 = .ok (.text "\x7bn1\x7d") := by
  intro text
  have hp : Template.HasPlaceholder text := by decide +kernel
  have hnone : ¬ Template.HasPlaceholder "\x7bn1\x7d" := by decide +kernel
  exact ⟨hp, (Expression.evaluate_template text).1 hp 1 11 (by decide), hnone,
    (Expression.evaluate_template "\x7bn1\x7d").2.1 hnone 7⟩

example : (Expression.template "\x7b\x7bn\x7dn\x7d").evaluate 3 = .ok (.text "\x7b3n\x7d") := rfl

end Fixtures
