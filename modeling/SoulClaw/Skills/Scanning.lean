import SoulClaw.Skills.Package

/-! What `lint_files` sees of the texts of a package. Every file is searched as it is, but for SKILL.md, of which
the body and a dump of the loaded frontmatter are searched. -/

namespace SoulClaw.Skills.Scanning
open Foundation Wiki.Markdown Package

/-! What a search finds. -/

/-- The first character of what a pattern takes, where the pattern begins with a text. -/
def firstOf : List Piece → Option Char
  | .text literal :: _ => literal.toList.head?
  | _ => none

/-- The character is in every table no white space. -/
def solid (c : Char) : Bool := c.toNat < 0x80 && !asciiSpace c

/-- Every run of white space is followed by a text that does not begin with white space, so that the run that is
taken is the whole one. -/
def steady : List Piece → Bool
  | [] => true
  | .text _ :: rest => steady rest
  | .spaces :: rest => (firstOf rest).any solid && steady rest

def Piece.dashes : Piece → Nat
  | .text literal => literal.toList.count '-'
  | .spaces => 0

def dashes (pattern : List Piece) : Nat := (pattern.map Piece.dashes).sum

/-- Every forbidden pattern is steady, begins with neither white space nor a dash, and holds at most two dashes. -/
theorem forbidden_shape {pattern : List Piece} (member : pattern ∈ forbiddenPatterns) :
    steady pattern = true ∧ (∃ first, firstOf pattern = some first ∧ solid first = true ∧ first ≠ '-') ∧
      dashes pattern ≤ 2 := by
  have checked : forbiddenPatterns.all (fun pattern =>
      steady pattern && (firstOf pattern).any (fun c => solid c && c != '-') && decide (dashes pattern ≤ 2)) = true := by
    decide +kernel
  have shape := List.all_eq_true.1 checked pattern member
  simp only [Bool.and_eq_true, decide_eq_true_eq] at shape
  obtain ⟨first, starts, kind⟩ := (Option.any_eq_true _ _).1 shape.1.2
  exact ⟨shape.1.1, ⟨first, starts, by simpa using kind⟩, shape.2⟩

section Search
variable [CharData]

/-- A pattern takes a text from its first character to its last. -/
inductive Takes : List Piece → List Char → Prop where
  | done : Takes [] []
  | text {literal : String} {rest : List Piece} {tail : List Char} (later : Takes rest tail) :
      Takes (.text literal :: rest) (literal.toList ++ tail)
  | spaces {run : List Char} {rest : List Piece} {tail : List Char} (nonempty : run ≠ [])
      (blank : ∀ c ∈ run, CharData.isSpace c = true) (later : Takes rest tail) :
      Takes (.spaces :: rest) (run ++ tail)

theorem Takes.head? {pattern : List Piece} {region : List Char} {first : Char} (takes : Takes pattern region)
    (starts : firstOf pattern = some first) : region.head? = some first := by
  cases takes with
  | done => cases starts
  | @text literal rest tail later =>
    have here : literal.toList.head? = some first := starts
    rw [List.head?_append, here, Option.some_or]
  | spaces nonempty blank later => cases starts

theorem isSpace_of_solid {c : Char} (known : solid c = true) : CharData.isSpace c = false := by
  rw [solid, Bool.and_eq_true, decide_eq_true_eq, Bool.not_eq_true'] at known
  rw [CharData.isSpace_ascii c known.1, known.2]

/-- Only the texts of a pattern take dashes. -/
theorem Takes.count_dash {pattern : List Piece} {region : List Char} (takes : Takes pattern region) :
    region.count '-' = dashes pattern := by
  induction takes with
  | done => rfl
  | text later ih => rw [List.count_append, ih, dashes, dashes, List.map_cons, List.sum_cons, Piece.dashes]
  | @spaces run rest tail nonempty blank later ih =>
    have none : run.count '-' = 0 := by
      refine List.count_eq_zero.2 fun member => ?_
      exact absurd (blank '-' member) (by simp [isSpace_of_solid (c := '-') (by decide)])
    rw [List.count_append, ih, none, dashes, dashes, List.map_cons, List.sum_cons, Piece.dashes]

/-- What a steady pattern takes at the start of a text. -/
theorem matchesHere_iff {pattern : List Piece} (text : List Char) (regular : steady pattern = true) :
    matchesHere pattern text = true ↔ ∃ region back, text = region ++ back ∧ Takes pattern region := by
  induction pattern generalizing text with
  | nil => exact ⟨fun _ => ⟨[], text, rfl, .done⟩, fun _ => rfl⟩
  | cons piece rest ih =>
    cases piece with
    | text literal =>
      rw [matchesHere, Bool.and_eq_true, List.isPrefixOf_iff_prefix, ih _ regular]
      constructor
      · intro ⟨⟨tail, whole⟩, region, back, same, takes⟩
        subst whole
        rw [← String.length_toList, List.drop_left] at same
        exact ⟨literal.toList ++ region, back, by rw [same, List.append_assoc], .text takes⟩
      · intro ⟨region, back, whole, takes⟩
        subst whole
        cases takes with
        | @text _ _ tail later =>
          rw [List.append_assoc]
          refine ⟨List.prefix_append _ _, tail, back, ?_, later⟩
          rw [← String.length_toList, List.drop_left]
    | spaces =>
      rw [steady, Bool.and_eq_true] at regular
      rw [matchesHere, Bool.and_eq_true, ih _ regular.2]
      constructor
      · intro ⟨run, region, back, same, takes⟩
        refine ⟨text.takeWhile CharData.isSpace ++ region, back, ?_, .spaces (by simpa using run) ?_ takes⟩
        · rw [List.append_assoc, ← same, List.takeWhile_append_dropWhile]
        · exact fun c member => List.mem_takeWhile_imp member
      · intro ⟨region, back, whole, takes⟩
        subst whole
        cases takes with
        | @spaces run _ tail nonempty blank later =>
          -- The text behind the run begins with no white space.
          obtain ⟨first, starts, known⟩ := (Option.any_eq_true _ _).1 regular.1
          have stops := isSpace_of_solid known
          obtain ⟨more, rfl⟩ := List.head?_eq_some_iff.1 (later.head? starts)
          rw [List.append_assoc, List.cons_append, List.takeWhile_append_of_pos blank,
            List.dropWhile_append_of_pos blank, List.takeWhile_cons_of_neg (by simp [stops]),
            List.dropWhile_cons_of_neg (by simp [stops]), List.append_nil]
          exact ⟨by simpa using nonempty, first :: more, back, rfl, later⟩

/-- `re.search` finds a pattern that takes some part of the text. -/
theorem found_iff {pattern : List Piece} (text : String) (regular : steady pattern = true) :
    found pattern text = true ↔
      ∃ front region back, text.toList = front ++ region ++ back ∧ Takes pattern region := by
  rw [found, List.any_eq_true]
  constructor
  · intro ⟨tail, member, here⟩
    obtain ⟨front, whole⟩ := (List.mem_tails _ _).1 member
    obtain ⟨region, back, same, takes⟩ := (matchesHere_iff tail regular).1 here
    exact ⟨front, region, back, by rw [← whole, same, List.append_assoc], takes⟩
  · intro ⟨front, region, back, whole, takes⟩
    refine ⟨region ++ back, (List.mem_tails _ _).2 ⟨front, ?_⟩, (matchesHere_iff _ regular).2 ⟨region, back, rfl, takes⟩⟩
    rw [whole, List.append_assoc]

/-- What is found in a part of a text is found in the text. -/
theorem found_of_part {pattern : List Piece} {part text : String} (regular : steady pattern = true)
    (inside : part.toList <:+: text.toList) (hit : found pattern part = true) : found pattern text = true := by
  obtain ⟨before, after, around⟩ := inside
  obtain ⟨front, region, back, whole, takes⟩ := (found_iff part regular).1 hit
  refine (found_iff text regular).2 ⟨before ++ front, region, back ++ after, ?_, takes⟩
  simp only [← around, whole, List.append_assoc]

end Search

/-! A text and its body. -/

section Body
variable [CharData]

theorem afterBlank_split {chars body : List Char} (member : body ∈ afterBlank chars) :
    ∃ blank, chars = blank ++ body ∧ ∀ c ∈ blank, CharData.isSpace c = true := by
  induction chars with
  | nil => cases member
  | cons c rest ih =>
    rw [afterBlank] at member
    split at member
    next space =>
      rcases List.mem_append.1 member with later | here
      · obtain ⟨blank, whole, spaces⟩ := ih later
        exact ⟨c :: blank, by rw [whole, List.cons_append], by simpa [space] using spaces⟩
      · split at here
        · rw [List.mem_singleton.1 here]
          exact ⟨[c], rfl, by simpa using space⟩
        · cases here
    next => cases member

/-- The text ends in a closing line. -/
def Closed (head : List Char) : Prop :=
  ∃ front blank, head = front ++ '-' :: '-' :: '-' :: blank ∧ ∀ c ∈ blank, CharData.isSpace c = true

theorem Closed.append {head : List Char} (closed : Closed head) (before : List Char) : Closed (before ++ head) := by
  obtain ⟨front, blank, rfl, spaces⟩ := closed
  exact ⟨before ++ front, blank, by rw [List.append_assoc], spaces⟩

theorem closing_split {chars body : List Char} (closes : closing chars = some body) :
    ∃ head, chars = head ++ body ∧ Closed head := by
  unfold closing at closes
  split at closes
  next rest =>
    obtain ⟨blank, whole, spaces⟩ := afterBlank_split (List.mem_of_mem_head? closes)
    exact ⟨'\n' :: '-' :: '-' :: '-' :: blank, by rw [whole]; rfl, ['\n'], blank, rfl, spaces⟩
  next => cases closes

theorem untilClosing_split {chars yaml body : List Char} (split : untilClosing chars = some (yaml, body)) :
    ∃ head, chars = head ++ body ∧ Closed head := by
  induction chars generalizing yaml with
  | nil => cases split
  | cons c rest ih =>
    rw [untilClosing] at split
    split at split
    next found closes =>
      cases split
      exact closing_split closes
    next =>
      obtain ⟨⟨later, found⟩, known, made⟩ := Option.map_eq_some_iff.1 split
      cases made
      obtain ⟨head, whole, closed⟩ := ih known
      exact ⟨c :: head, by rw [whole, List.cons_append], closed.append [c]⟩

/-- The body is the end of the text, behind a closing line. -/
theorem matchFrontmatter_split {text yaml body : String} (split : matchFrontmatter text = some (yaml, body)) :
    ∃ head, text.toList = head ++ body.toList ∧ Closed head := by
  rw [matchFrontmatter] at split
  split at split
  next rest opens =>
    obtain ⟨⟨inner, found⟩, known, made⟩ := Option.map_eq_some_iff.1 split
    cases made
    obtain ⟨after, member, here⟩ := List.exists_of_findSome?_eq_some known
    obtain ⟨blank, whole, _⟩ := afterBlank_split member
    obtain ⟨head, whole', closed⟩ := untilClosing_split here
    refine ⟨'-' :: '-' :: '-' :: blank ++ head, ?_, closed.append _⟩
    rw [opens, whole, whole', String.toList_ofList]
    simp only [List.cons_append, List.append_assoc]
  next => cases split

theorem parse_split {service : SkillService} {text body : String} {metadata : Mapping}
    (parsed : service.parseSkillMarkdown text = .ok (metadata, body)) :
    ∃ head, text.toList = head ++ body.toList ∧ (head = [] ∨ Closed head) := by
  rw [SkillService.parseSkillMarkdown] at parsed
  split at parsed
  next =>
    cases parsed
    exact ⟨[], rfl, .inl rfl⟩
  next yaml found split =>
    obtain ⟨head, whole, closed⟩ := matchFrontmatter_split split
    split at parsed
    next => cases parsed
    next =>
      split at parsed
      next =>
        cases parsed
        exact ⟨head, whole, .inr closed⟩
      next => cases parsed

omit [CharData] in
/-- What begins in the head of a text and ends in its body has a part in the head. -/
theorem part_of_crossing {head body front region back : List Char} (whole : head ++ body = front ++ region ++ back)
    (begins : front.length < head.length) (ends : back.length < body.length) :
    ∃ part, part ≠ [] ∧ head = front ++ part ∧ part <+: region := by
  have behind : front <+: head ++ body := ⟨region ++ back, by rw [whole, List.append_assoc]⟩
  obtain ⟨part, rfl⟩ := List.prefix_of_prefix_length_le behind (List.prefix_append head body) begins.le
  rw [List.append_assoc, List.append_assoc, List.append_cancel_left_eq] at whole
  have short : part.length ≤ region.length := by
    have lengths := congrArg List.length whole
    simp only [List.length_append] at lengths
    omega
  refine ⟨part, ?_, rfl, List.prefix_of_prefix_length_le ⟨body, whole⟩ (List.prefix_append region back) short⟩
  intro empty
  rw [empty, List.append_nil] at begins
  exact absurd begins (Nat.lt_irrefl _)

/-- Nothing that a forbidden pattern takes begins before the body and ends in it: it would begin in the closing line
or hold the three dashes of that line. -/
theorem apart_of_takes {pattern : List Piece} {head body front region back : List Char}
    (member : pattern ∈ forbiddenPatterns) (takes : Takes pattern region) (place : head = [] ∨ Closed head)
    (whole : head ++ body = front ++ region ++ back) : head.length ≤ front.length ∨ body.length ≤ back.length := by
  rcases place with rfl | ⟨before, blank, rfl, spaces⟩
  · exact .inl (Nat.zero_le _)
  by_contra crossing
  rw [not_or, Nat.not_le, Nat.not_le] at crossing
  obtain ⟨part, nonempty, split, inside⟩ := part_of_crossing whole crossing.1 crossing.2
  obtain ⟨_, ⟨first, starts, known, other⟩, few⟩ := forbidden_shape member
  rcases List.append_eq_append_iff.1 split with ⟨between, _, tail⟩ | ⟨between, _, rfl⟩
  · -- The match begins with a character of the closing line.
    obtain ⟨rest, rfl⟩ := inside
    have here : first ∈ part := by
      have begins := takes.head? starts
      rw [List.head?_append_of_ne_nil part nonempty] at begins
      exact List.mem_of_mem_head? begins
    have closing : first ∈ '-' :: '-' :: '-' :: blank := tail ▸ List.mem_append_right _ here
    simp only [List.mem_cons, other, false_or] at closing
    exact absurd (spaces first closing) (by simp [isSpace_of_solid known])
  · have three : 3 ≤ (between ++ '-' :: '-' :: '-' :: blank).count '-' := by
      simp only [List.count_append, List.count_cons_self]
      omega
    have all := inside.sublist.count_le '-'
    rw [takes.count_dash] at all
    omega

end Body

/-! What is seen. -/

section Claim
variable [CharData]

/-- The match lies inside one of the ranges. -/
def Within (ranges : List (Nat × Nat)) (front region : List Char) : Prop :=
  ∃ range ∈ ranges, range.1 ≤ front.length ∧ front.length + region.length ≤ range.2

/-- No forbidden pattern matches outside of the ranges. -/
def CleanText (ranges : List (Nat × Nat)) (text : String) : Prop :=
  ∀ pattern ∈ forbiddenPatterns, ∀ front region back, text.toList = front ++ region ++ back → Takes pattern region →
    Within ranges front region

/-- No forbidden pattern matches in the texts of the files, but inside the values of the tests of SKILL.md. -/
def Clean (testValues : String → List (Nat × Nat)) (files : FileMap) : Prop :=
  ∀ path text, files.get path = some text → CleanText (if path = "SKILL.md" then testValues text else []) text

/-- Every forbidden pattern that matches before the body, outside of the values of the tests, is found in the dump of
the loaded frontmatter too. -/
def Carried (service : SkillService) (testValues : String → List (Nat × Nat)) (text : String) : Prop :=
  ∀ metadata body, service.parseSkillMarkdown text = .ok (metadata, body) →
    ∀ pattern ∈ forbiddenPatterns, ∀ front region back, text.toList = front ++ region ++ back → Takes pattern region →
      body.length ≤ back.length → ¬Within (testValues text) front region →
        found pattern (service.safeDump (withoutTests metadata)) = true

theorem unfound_of_checked {path content scanned : String} (checked : fileErrors path content scanned = []) :
    ∀ pattern ∈ forbiddenPatterns, found pattern scanned = false := by
  simp only [fileErrors, List.append_eq_nil_iff, List.map_eq_nil_iff, List.filter_eq_nil_iff, Bool.not_eq_true] at checked
  exact checked.2

/-- A SKILL.md whose body and whose dump are searched is clean where its frontmatter is carried into the dump. -/
theorem clean_of_carried {service : SkillService} {testValues : String → List (Nat × Nat)} {text body : String}
    {metadata : Mapping} (parsed : service.parseSkillMarkdown text = .ok (metadata, body))
    (unfound : ∀ pattern ∈ forbiddenPatterns,
      found pattern (service.safeDump (withoutTests metadata) ++ "\n" ++ body) = false)
    (carried : Carried service testValues text) : CleanText (testValues text) text := by
  intro pattern member front region back whole takes
  have regular := (forbidden_shape member).1
  have missed : ∀ part : String, part.toList <:+: (service.safeDump (withoutTests metadata) ++ "\n" ++ body).toList →
      found pattern part ≠ true := by
    intro part inside hit
    exact absurd (found_of_part regular inside hit) (by rw [unfound pattern member]; decide)
  obtain ⟨head, split, place⟩ := parse_split parsed
  have whole' := split.symm.trans whole
  rcases apart_of_takes member takes place whole' with behind | before
  · -- In the body, which is searched as it is.
    have start : head <+: front ++ region ++ back := ⟨body.toList, whole'⟩
    obtain ⟨between, rfl⟩ : head <+: front := by
      rw [List.append_assoc] at start
      exact List.prefix_of_prefix_length_le start (List.prefix_append front _) behind
    rw [List.append_assoc, List.append_assoc, List.append_cancel_left_eq, ← List.append_assoc] at whole'
    have hit := (found_iff body regular).2 ⟨between, region, back, whole', takes⟩
    refine absurd hit (missed body ?_)
    rw [String.toList_append]
    exact (List.suffix_append _ _).isInfix
  · by_contra outside
    refine missed _ ?_ (carried metadata body parsed pattern member front region back whole takes before outside)
    rw [String.toList_append, String.toList_append, List.append_assoc]
    exact (List.prefix_append _ _).isInfix

theorem lint_sees_iff [DateData] (service : SkillService) (testValues : String → List (Nat × Nat)) (files : FileMap)
    (linted : (lintFiles service files).ok = true) :
    Clean testValues files ↔ ∀ text, files.get "SKILL.md" = some text → Carried service testValues text := by
  obtain ⟨unfailed, checked⟩ := unfailed_of_linted linted
  constructor
  · intro clean text known metadata body _ pattern member front region back whole takes _ outside
    exact absurd (clean "SKILL.md" text known pattern member front region back whole takes) outside
  · intro carried path text known
    have searched := unfound_of_checked (checked (path, text) (FileMap.get_eq_some.1 known))
    by_cases manifest : path = "SKILL.md"
    · subst manifest
      obtain ⟨read, metadata, body, found, parsed, split⟩ := manifest_of_unfailed unfailed
      obtain rfl : text = read := Option.some.inj (known.symm.trans found)
      simp only [if_true, split] at searched ⊢
      exact clean_of_carried parsed searched (carried text known)
    · simp only [if_neg manifest] at searched ⊢
      intro pattern member front region back whole takes
      have hit := (found_iff text (forbidden_shape member).1).2 ⟨front, region, back, whole, takes⟩
      rw [searched pattern member] at hit
      cases hit

end Claim

section Demo
attribute [local instance] CharData.ascii DateData.undated

/-- A service that loads lines of the form `key: value`; a line that begins with a hash sign is a comment. -/
private def flatSkills : SkillService where
  root := []
  safeLoad text :=
    match (text.toList.splitOn '\n').filter fun line => line.head?.any (· ≠ '#') with
    | [] => .ok .null
    | lines => .ok (.map (lines.map fun line => (.str (String.ofList (line.takeWhile (· ≠ ':'))),
        .str (Text.strip (String.ofList (line.dropWhile (· ≠ ':')).tail)))))
  safeDump
    | [] => "\x7b\x7d\n"
    | fields => String.join (fields.map fun field => field.1.toStr ++ ": " ++ field.2.toStr ++ "\n")
  sha256 text := text

private def flatText : String := "---\nname: demo\n---\n# Demo\n"

private def commentText : String := "---\nname: demo\n# rm -rf /\n---\n# Demo\n"

private def flatPackage (text : String) : FileMap := FileMap.insert Keyed.empty "SKILL.md" text

theorem flat_clean : Clean (fun _ => []) (flatPackage flatText) := by
  refine (lint_sees_iff flatSkills _ (flatPackage flatText) (by decide +kernel)).2 ?_
  intro text known metadata body _ pattern member front region back whole takes
  have only : flatText = text := Option.some.inj known
  have unfound : forbiddenPatterns.all (fun pattern => !found pattern flatText) = true := by decide +kernel
  have hit := (found_iff text (forbidden_shape member).1).2 ⟨front, region, back, whole, takes⟩
  rw [← only] at hit
  simpa [hit] using List.all_eq_true.1 unfound pattern member

/-- A comment of the frontmatter is not loaded, so that what it says is not searched. -/
theorem comment_unseen :
    ¬∀ files, (lintFiles flatSkills files).ok = true → Clean (fun _ => []) files := by
  intro sees
  have clean := sees (flatPackage commentText) (by decide +kernel) "SKILL.md" commentText rfl
  have hit : found [.text "rm", .spaces, .text "-rf", .spaces, .text "/"] commentText = true := by decide +kernel
  obtain ⟨front, region, back, whole, takes⟩ := (found_iff commentText (by decide +kernel)).1 hit
  obtain ⟨range, none, _⟩ := clean _ List.mem_cons_self front region back whole takes
  cases none

end Demo

end SoulClaw.Skills.Scanning
