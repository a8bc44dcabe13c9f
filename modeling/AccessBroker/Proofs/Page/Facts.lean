/-
What the page with a cookie shows.

A page shows what stands behind a term of its list (`shown?`), as far as the next tag, with the
entities in it read back. Text that is written into a page has no tag in it and is read back
(`decode_escape`), so a list shows behind each of its terms what was written there, whatever was
written behind the terms before (`shown?_list`), and the page with a cookie shows the facts that the
cookie was made with (`facts?_cookie`).
-/
import AccessBroker.Page.Basic
import AccessBroker.Proofs.Text.Number
import AccessBroker.Proofs.Text.Split

namespace AccessBroker.Page

/-! ## Text read back -/

theorem decode_of_ne {c : Char} (h : c ≠ '&') (rest : List Char) :
    decode (c :: rest) = c :: decode rest := by
  rw [decode]
  all_goals
    intros
    contradiction

theorem decode_escapeChar (c : Char) (rest : List Char) :
    decode (escapeChar c ++ rest) = c :: decode rest := by
  unfold escapeChar
  split
  case h_6 hamp _ _ _ _ => exact decode_of_ne hamp rest
  all_goals exact decode.eq_def _

/-- **Text survives being written into a page.** -/
theorem decode_escape : ∀ cs : List Char, decode (cs.flatMap escapeChar) = cs
  | [] => rfl
  | c :: cs => by rw [List.flatMap_cons, decode_escapeChar, decode_escape cs]

theorem not_mem_escapeChar (c : Char) : '<' ∉ escapeChar c := by
  unfold escapeChar
  split
  case h_6 hlt _ _ _ => simpa using Ne.symm hlt
  all_goals decide

theorem not_mem_escape (s : String) : '<' ∉ (escape s).toList := by
  rw [escape, String.toList_ofList, List.mem_flatMap]
  rintro ⟨c, -, hc⟩
  exact not_mem_escapeChar c hc

/-! ## The text behind a mark -/

/-- What stands behind the first place where a mark stands. -/
def behind? (mark : List Char) : List Char → Option (List Char)
  | [] => Text.after? mark []
  | c :: cs =>
    match Text.after? mark (c :: cs) with
    | some rest => some rest
    | none => behind? mark cs

/-- Whether two lists differ in a place that both have. -/
def differ : List Char → List Char → Bool
  | a :: as, b :: bs => a ≠ b || differ as bs
  | _, _ => false

/-- Whether a mark begins nowhere in a list, however the list goes on. -/
def avoids (mark : List Char) : List Char → Bool
  | [] => true
  | c :: cs => differ mark (c :: cs) && avoids mark cs

theorem after?_of_differ : ∀ {mark xs : List Char}, differ mark xs = true →
    ∀ ys more, Text.after? (mark ++ more) (xs ++ ys) = none
  | a :: as, b :: bs, h, ys, more => by
    rw [List.cons_append, List.cons_append, Text.after?]
    split
    · next heq =>
      rw [differ, heq] at h
      exact after?_of_differ (by simpa using h) ys more
    · rfl

/-- Where a mark cannot begin nothing is found. -/
theorem behind?_append {mark : List Char} : ∀ {xs : List Char}, avoids mark xs = true →
    ∀ ys more, behind? (mark ++ more) (xs ++ ys) = behind? (mark ++ more) ys
  | [], _, ys, more => rfl
  | c :: cs, h, ys, more => by
    rw [avoids, Bool.and_eq_true] at h
    have hnone := after?_of_differ h.1 ys more
    rw [List.cons_append] at hnone
    rw [List.cons_append, behind?, hnone]
    exact behind?_append h.2 ys more

theorem behind?_of_after? {mark cs rest : List Char} (h : Text.after? mark cs = some rest) :
    behind? mark cs = some rest := by
  cases cs with
  | nil => exact h
  | cons c cs => rw [behind?, h]

theorem differ_lt_of_not_mem : ∀ {cs : List Char}, '<' ∉ cs → avoids ['<'] cs = true
  | [], _ => rfl
  | c :: cs, h => by
    rw [List.mem_cons, not_or] at h
    rw [avoids, differ_lt_of_not_mem h.2]
    simp [differ, h.1]

/-! ## Lists of terms -/

/-- A term as it stands in a list, up to the text behind it. -/
def mark (term : String) : List Char := "<dt>".toList ++ (term.toList ++ "</dt><dd>".toList)

/-- A term and the text behind it. -/
def row (term text : String) : List Char := mark term ++ (text.toList ++ "</dd>\n".toList)

/-- What a page shows behind a term, up to the next tag. -/
def shown? (term html : String) : Option String :=
  (behind? (mark term) html.toList).map fun cs => String.ofList (decode (cs.takeWhile (· ≠ '<')))

/-- Nothing of a text without tags is taken for a term. -/
theorem behind?_text {text : List Char} (htext : '<' ∉ text) (term : String) (ys : List Char) :
    behind? (mark term) (text ++ ys) = behind? (mark term) ys :=
  behind?_append (differ_lt_of_not_mem htext) ys _

/-- Nothing of a fixed text is taken for a term if no term begins in it. -/
theorem behind?_fixed {fixed : List Char} (hfixed : avoids "<dt>".toList fixed = true)
    (term : String) (ys : List Char) :
    behind? (mark term) (fixed ++ ys) = behind? (mark term) ys :=
  behind?_append hfixed ys _

theorem behind?_row_self (term text : String) (ys : List Char) :
    behind? (mark term) (row term text ++ ys) = some (text.toList ++ ("</dd>\n".toList ++ ys)) := by
  refine behind?_of_after? (Text.after?_eq_some_iff.mpr ?_)
  simp only [row, List.append_assoc]

/-- Two terms with tags behind them differ if the terms do. -/
theorem after?_mark_of_ne {other term : String} (hne : other ≠ term) (hother : '<' ∉ other.toList)
    (hterm : '<' ∉ term.toList) (ys : List Char) :
    Text.after? (mark term) (mark other ++ ys) = none := by
  cases hafter : Text.after? (mark term) (mark other ++ ys) with
  | none => rfl
  | some rest =>
    have hsame : other.toList ++ '<' :: ("/dt><dd>".toList ++ ys) =
        term.toList ++ '<' :: ("/dt><dd>".toList ++ rest) := by
      have hlist := Text.after?_eq_some_iff.mp hafter
      simp only [mark, List.append_assoc] at hlist
      exact List.append_cancel_left hlist
    have hfirst := Text.splitFirst?_append ("/dt><dd>".toList ++ ys) hother
    rw [hsame, Text.splitFirst?_append _ hterm, Option.some.injEq, Prod.mk.injEq] at hfirst
    exact absurd (String.toList_inj.mp hfirst.1).symm hne

/-- A row with another term is passed over, whatever text stands in it. -/
theorem behind?_row_of_ne {other term text : String} (hne : other ≠ term)
    (hother : '<' ∉ other.toList) (hterm : '<' ∉ term.toList) (htext : '<' ∉ text.toList)
    (ys : List Char) : behind? (mark term) (row other text ++ ys) = behind? (mark term) ys := by
  have hrow : row other text ++ ys = '<' :: ("dt>".toList ++ (other.toList ++
      ("</dt><dd>".toList ++ (text.toList ++ ("</dd>\n".toList ++ ys))))) := by
    simp only [row, mark, List.append_assoc]
    rfl
  have hnone : Text.after? (mark term) (row other text ++ ys) = none := by
    rw [row, List.append_assoc]
    exact after?_mark_of_ne hne hother hterm _
  rw [hrow] at hnone ⊢
  simp only [behind?, hnone]
  rw [behind?_text (by decide), behind?_text hother, behind?_fixed (by decide), behind?_text htext,
    behind?_fixed (by decide)]

/-- The rows of a list, one after another. -/
def list (rows : List (String × String)) : List Char := rows.flatMap fun p => row p.1 (escape p.2)

theorem behind?_list {term text : String} (hterm : '<' ∉ term.toList) (back : List Char) :
    ∀ {rows : List (String × String)}, (∀ p ∈ rows, '<' ∉ p.1.toList) →
      rows.lookup term = some text → ∃ rest, behind? (mark term) (list rows ++ back) =
        some ((escape text).toList ++ '<' :: rest)
  | [], _, h => by cases h
  | (other, shown) :: rows, hrows, h => by
    have hother := hrows (other, shown) List.mem_cons_self
    rw [List.lookup_cons] at h
    rw [list, List.flatMap_cons, List.append_assoc]
    by_cases hne : other = term
    · simp only [hne, beq_self_eq_true, Option.some.injEq] at h
      rw [hne, h, behind?_row_self]
      exact ⟨_, rfl⟩
    · have hskip : (term == other) = false := by simpa using Ne.symm hne
      rw [hskip] at h
      rw [behind?_row_of_ne hne hother hterm (not_mem_escape shown)]
      exact behind?_list hterm back (fun p hp => hrows p (List.mem_cons_of_mem _ hp)) h

/-- **A list shows behind each of its terms what was written there.** -/
theorem shown?_list {front : List Char} (hfront : avoids "<dt>".toList front = true)
    {term text : String} (hterm : '<' ∉ term.toList) {rows : List (String × String)}
    (hrows : ∀ p ∈ rows, '<' ∉ p.1.toList) (h : rows.lookup term = some text) (back : List Char) :
    shown? term (String.ofList (front ++ (list rows ++ back))) = some text := by
  obtain ⟨rest, hrest⟩ := behind?_list hterm back hrows h
  have hplain : ∀ c ∈ (escape text).toList, decide (c ≠ '<') = true := by
    intro c hc
    refine decide_eq_true ?_
    intro heq
    exact not_mem_escape text (heq ▸ hc)
  rw [shown?, String.toList_ofList, behind?_fixed hfront, hrest, Option.map_some,
    Text.takeWhile_append_stop hplain (by decide), escape, String.toList_ofList, decode_escape,
    String.ofList_toList]

/-! ## The page with a cookie -/

/-- A fact that is shown. -/
def flag? (s : String) : Option Bool :=
  if s = flag true then some true else if s = flag false then some false else none

/-- The facts that a page shows. -/
def facts? (html : String) : Option AccessCookie := do
  let address ← shown? "Client IP address" html
  let campus ← flag? (← shown? "Campus network" html)
  let degraded ← flag? (← shown? "Degraded access allowed" html)
  some ⟨address, campus, degraded⟩

theorem flag?_flag (b : Bool) : flag? (flag b) = some b := by
  cases b
  · decide
  · decide

theorem escape_flag (b : Bool) : escape (flag b) = flag b := by
  cases b
  · decide
  · decide

/-- The terms of the page, and what it says about them. -/
def rows (version origin : String) (c : AccessCookie) : List (String × String) :=
  [("Service version", version), ("Origin", origin), ("Client IP address", c.address),
    ("Campus network", flag c.campus), ("Degraded access allowed", flag c.degraded)]

/-- What the page begins with, up to its list. -/
def factsFront : String := head ++ "Access granted" ++ body ++ "<h1>Access cookie issued</h1>
<dl>
"

/-- What stands between the list and the delay. -/
def factsMiddle : String := "</dl>
<p>This window will close automatically.</p>
<script>
window.setTimeout(function () \x7b window.close(); \x7d, "

/-- What the page ends with, behind its list. -/
def factsBack (seconds : UInt64) : String :=
  factsMiddle ++ (Text.natText (delay seconds) ++ (");
</script>
" ++ foot))

theorem cookie_eq (version origin : String) (c : AccessCookie) (seconds : UInt64) :
    cookie version origin c seconds = String.ofList (factsFront.toList ++
      (list (rows version origin c) ++ (factsBack seconds).toList)) := by
  -- The fixed text between two places ends one row and begins the next.
  have hfirst : "<h1>Access cookie issued</h1>
<dl>
<dt>Service version</dt><dd>" = "<h1>Access cookie issued</h1>
<dl>
" ++ ("<dt>" ++ ("Service version" ++ "</dt><dd>")) := by decide +kernel
  have hnext : "</dd>\n<dt>Origin</dt><dd>" =
        "</dd>\n" ++ ("<dt>" ++ ("Origin" ++ "</dt><dd>")) ∧
      "</dd>\n<dt>Client IP address</dt><dd>" =
        "</dd>\n" ++ ("<dt>" ++ ("Client IP address" ++ "</dt><dd>")) ∧
      "</dd>\n<dt>Campus network</dt><dd>" =
        "</dd>\n" ++ ("<dt>" ++ ("Campus network" ++ "</dt><dd>")) ∧
      "</dd>\n<dt>Degraded access allowed</dt><dd>" =
        "</dd>\n" ++ ("<dt>" ++ ("Degraded access allowed" ++ "</dt><dd>")) := by decide +kernel
  have hlast : "</dd>
</dl>
<p>This window will close automatically.</p>
<script>
window.setTimeout(function () \x7b window.close(); \x7d, " = "</dd>\n" ++ factsMiddle := by
    decide +kernel
  refine String.toList_inj.mp ?_
  rw [cookie, hfirst, hnext.1, hnext.2.1, hnext.2.2.1, hnext.2.2.2, hlast]
  simp only [factsFront, factsBack, list, rows, row, mark, List.flatMap_cons, List.flatMap_nil,
    String.toList_append, String.toList_ofList, List.append_assoc, List.nil_append, escape_flag]

/-- **The page with a cookie shows the facts of the cookie.** -/
theorem facts?_cookie (version origin : String) (c : AccessCookie) (seconds : UInt64) :
    facts? (cookie version origin c seconds) = some c := by
  have hfront : avoids "<dt>".toList factsFront.toList = true := by decide +kernel
  have hrows : ∀ p ∈ rows version origin c, '<' ∉ p.1.toList := by
    have hterms : ∀ term ∈ (rows version origin c).map Prod.fst, '<' ∉ term.toList :=
      show ∀ term ∈ ["Service version", "Origin", "Client IP address", "Campus network",
        "Degraded access allowed"], '<' ∉ term.toList by decide
    exact fun p hp => hterms p.1 (List.mem_map_of_mem hp)
  have hshown : ∀ {term text : String}, '<' ∉ term.toList →
      (rows version origin c).lookup term = some text →
      shown? term (cookie version origin c seconds) = some text := by
    intro term text hterm h
    rw [cookie_eq]
    exact shown?_list hfront hterm hrows h _
  have haddress : shown? "Client IP address" _ = some c.address := hshown (by decide) rfl
  have hcampus : shown? "Campus network" _ = some (flag c.campus) := hshown (by decide) rfl
  have hdegraded : shown? "Degraded access allowed" _ = some (flag c.degraded) :=
    hshown (by decide) rfl
  rw [facts?, haddress, hcampus, hdegraded]
  simp [flag?_flag]

end AccessBroker.Page
