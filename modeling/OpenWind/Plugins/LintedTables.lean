import OpenWind.Lib.Joined
import OpenWind.Plugins.Lifecycle
import OpenWind.Plugins.MigrationLint

/-!
# The tables that the lint reads

The lint is no parser.  It reads a statement `CREATE TABLE name (…);` whose name is one word, in
quotes or not, and reads on behind it; what it accepts is sound for the statements that it reads.
-/

open List

namespace OpenWind

open Regex

/-! ## The front of a statement -/

variable {c : Char} {after before closing columns head name policy sql text : List Char}
  {captures : List (List Char)}

theorem isSpace_of_isWordChar (letter : isWordChar c) : isSpace c = false := by
  have ascii : 48 ≤ c.toNat ∧ c.toNat ≤ 122 := by
    unfold isWordChar at letter
    rcases Bool.or_eq_true_iff.mp letter with letter | other
    · delta Char.isAlphanum Char.isAlpha Char.isUpper Char.isLower Char.isDigit at letter
      simp only [Bool.or_eq_true, Bool.and_eq_true, decide_eq_true_eq,
        UInt32.le_iff_toNat_le, ge_iff_le] at letter
      change (65 ≤ c.toNat ∧ c.toNat ≤ 90 ∨ 97 ≤ c.toNat ∧ c.toNat ≤ 122) ∨
        48 ≤ c.toNat ∧ c.toNat ≤ 57 at letter
      omega
    · rw [eq_of_beq other]
      decide
  by_contra space
  rw [Bool.not_eq_false] at space
  unfold isSpace at space
  simp only [Bool.or_eq_true, Bool.and_eq_true, decide_eq_true_eq, mem_cons,
    not_mem_nil, or_false] at space
  omega

def nameBefore (text : List Char) : List Char :=
  (((text.reverse.dropWhile isSpace).dropWhile (· == '"')).takeWhile isWordChar).reverse

structure HeadParts (text lead name quote gap : List Char) : Prop where
  text_eq : text = lead ++ (name ++ (quote ++ (gap ++ ['('])))
  apart : ∃ front c, lead = front ++ [c] ∧ isWordChar c = false
  nonempty : name ≠ []
  letters : ∀ c ∈ name, isWordChar c = true
  quoted : quote = [] ∨ quote = ['"']
  blank : ∀ c ∈ gap, isSpace c = true
  free : '(' ∉ lead

theorem spaced_ends (w : String) (ws : List String) :
    (spaced (w :: ws)).EndsIn fun c => isSpace c := by
  induction ws generalizing w with
  | nil =>
    rintro _ _ ⟨one, two, _, _, -, ⟨blank, rest, _, _, space, ⟨rfl, -⟩, rfl, -⟩, rfl, -⟩
    obtain ⟨front, c, rfl, last⟩ := EndsIn.plus (fun _ taken => taken) blank _ space
    exact ⟨one ++ front, c, by simp, last⟩
  | cons next ws ih => exact EndsIn.seq (EndsIn.seq (ih next))

theorem spaced_plain (ws : List String) : (spaced ws).Plain := by
  induction ws with
  | nil => trivial
  | cons w ws ih => exact ⟨word_plain _, ⟨trivial, trivial⟩, ih⟩

theorem spaced_within (space : isSpace c = false) {ws : List String}
    (free : ws.all fun w => w.toList.all fun d => c.toUpper ≠ d.toUpper) :
    (spaced ws).Within (· ≠ c) := by
  have other (d : Char) (blank : isSpace d) : d ≠ c := by
    rintro rfl
    rw [space] at blank
    cases blank
  induction ws with
  | nil => trivial
  | cons w ws ih =>
    obtain ⟨here, free⟩ := Bool.and_eq_true_iff.mp free
    have here : ∀ d ∈ w.toList, c.toUpper ≠ d.toUpper := by simpa using here
    exact ⟨word_within here, ⟨other, other⟩, ih free⟩

theorem plus_matches {α : Type} {p : α → Bool} {text : List α} {captures : List (List α)}
    (matched : (plus p).Matches text captures) : text ≠ [] ∧ (∀ c ∈ text, p c) ∧ captures = [] := by
  obtain ⟨_, rest, _, _, ⟨⟨c, taken, rfl⟩, rfl⟩, ⟨all, rfl⟩, rfl, rfl⟩ := matched
  exact ⟨cons_ne_nil _ _, forall_mem_cons.mpr ⟨taken, all⟩, rfl⟩

theorem quoteMark_matches (matched : quoteMark.Matches text captures) :
    (text = [] ∨ text = ['"']) ∧ captures = [] := by
  rcases matched with ⟨⟨c, taken, rfl⟩, none⟩ | ⟨rfl, none⟩
  · exact ⟨.inr (by rw [eq_of_beq taken]), none⟩
  · exact ⟨.inl rfl, none⟩

theorem createTableHead_parts (matched : createTableHead.Matches text captures) :
    ∃ lead name quote gap, captures = [name] ∧ HeadParts text lead name quote gap := by
  obtain ⟨words, _, _, _, first, ⟨mark, _, _, _, opened, ⟨name, _, _, _, ⟨_, taken, rfl⟩,
    ⟨quote, _, _, _, closed, ⟨gap, paren, _, _, ⟨blank, rfl⟩, ⟨⟨c, isParen, rfl⟩, rfl⟩, rfl, rfl⟩,
    rfl, rfl⟩, rfl, rfl⟩, rfl, rfl⟩, rfl, rfl⟩ := matched
  obtain ⟨marked, rfl⟩ := quoteMark_matches opened
  obtain ⟨quoted, rfl⟩ := quoteMark_matches closed
  obtain ⟨nonempty, letters, rfl⟩ := plus_matches taken
  have plain : createTableWords.Plain := ⟨spaced_plain _, spaced_plain _, trivial⟩
  obtain rfl := first.captures_eq plain
  obtain rfl : c = '(' := eq_of_beq isParen
  refine ⟨words ++ mark, name, quote, gap, rfl, ⟨?_, ?_, nonempty, letters, quoted, blank, ?_⟩⟩
  · rw [append_assoc]
  · rcases marked with rfl | rfl
    · obtain ⟨front, c, rfl, space⟩ := EndsIn.seq_opt (spaced_ends _ _) (spaced_ends _ _) _ _ first
      refine ⟨front, c, append_nil _, Bool.eq_false_iff.mpr fun letter => ?_⟩
      rw [isSpace_of_isWordChar letter] at space
      cases space
    · exact ⟨words, '"', rfl, by decide⟩
  · have within : createTableWords.Within (· ≠ '(') :=
      ⟨spaced_within (by decide) (by decide), spaced_within (by decide) (by decide), trivial⟩
    rw [mem_append]
    rintro (mem | mem)
    · exact first.within within _ mem rfl
    · rcases marked with rfl | rfl
      · cases mem
      · exact absurd mem (by decide)

section Head

variable {text lead name quote gap : List Char}

theorem HeadParts.nameBefore_eq (parts : HeadParts text lead name quote gap) :
    nameBefore (lead ++ (name ++ (quote ++ gap))) = name := by
  obtain ⟨-, ⟨front, c, rfl, other⟩, nonempty, letters, quoted, blank, -⟩ := parts
  obtain ⟨last, rest, reversed⟩ :=
    exists_cons_of_ne_nil (mt reverse_eq_nil_iff.mp nonempty)
  have letter : isWordChar last :=
    letters last (mem_reverse.mp (reversed ▸ mem_cons_self))
  have quoteless : (last == '"') = false := by
    refine beq_eq_false_iff_ne.mpr ?_
    rintro rfl
    exact absurd letter (by decide)
  have spaces : ∀ c ∈ gap.reverse, isSpace c := fun c mem => blank c (mem_reverse.mp mem)
  have word : ∀ c ∈ name.reverse, isWordChar c :=
    fun c mem => letters c (mem_reverse.mp mem)
  have unquoted : ((quote.reverse ++ (name.reverse ++ c :: front.reverse)).dropWhile isSpace).dropWhile
      (· == '"') = name.reverse ++ c :: front.reverse := by
    rw [reversed]
    rcases quoted with rfl | rfl
    · simp [isSpace_of_isWordChar letter, quoteless]
    · have mark : isSpace '"' = false := by decide
      simp [mark, quoteless]
  have backwards : (front ++ [c] ++ (name ++ (quote ++ gap))).reverse =
      gap.reverse ++ (quote.reverse ++ (name.reverse ++ c :: front.reverse)) := by
    simp
  unfold nameBefore
  rw [backwards, dropWhile_append_of_pos spaces, unquoted, takeWhile_append_of_pos word,
    takeWhile_cons_of_neg (by rw [other]; exact Bool.false_ne_true), append_nil,
    reverse_reverse]

theorem HeadParts.free_name (parts : HeadParts text lead name quote gap) :
    '(' ∉ lead ++ (name ++ (quote ++ gap)) := by
  rw [mem_append, mem_append, mem_append]
  rintro (mem | mem | mem | mem)
  · exact parts.free mem
  · exact absurd (parts.letters _ mem) (by decide)
  · rcases parts.quoted with rfl | rfl
    · cases mem
    · exact absurd mem (by decide)
  · exact absurd (parts.blank _ mem) (by decide)

theorem HeadParts.split (parts : HeadParts text lead name quote gap) (rest : List Char) :
    text ++ rest = (lead ++ (name ++ (quote ++ gap))) ++ '(' :: rest := by
  rw [parts.text_eq]
  simp

end Head

theorem createTableHead_unique {text text' rest rest' : List Char} {captures captures' : List (List Char)}
    (matched : createTableHead.Matches text captures)
    (matched' : createTableHead.Matches text' captures') (same : text ++ rest = text' ++ rest') :
    text = text' ∧ captures = captures' ∧ rest = rest' := by
  obtain ⟨lead, name, quote, gap, rfl, parts⟩ := createTableHead_parts matched
  obtain ⟨lead', name', quote', gap', rfl, parts'⟩ := createTableHead_parts matched'
  rw [parts.split, parts'.split] at same
  obtain ⟨front, rfl⟩ := Joined.cut_unique parts.free_name parts'.free_name same
  have names : name = name' := by
    rw [← parts.nameBefore_eq, front, parts'.nameBefore_eq]
  have texts := parts.split []
  rw [front, ← parts'.split, append_nil, append_nil] at texts
  exact ⟨texts, by rw [names], rfl⟩

/-! ## The end of a statement -/

theorem createTableEnd_parts (takes : createTableEnd.Takes text) :
    ∃ gap, text = ')' :: (gap ++ [';']) ∧ ∀ c ∈ gap, isSpace c = true := by
  obtain ⟨_, _, _, _, _, ⟨⟨c, isParen, rfl⟩, rfl⟩, ⟨gap, _, _, _, ⟨blank, rfl⟩,
    ⟨⟨d, isSemi, rfl⟩, rfl⟩, rfl, rfl⟩, rfl, rfl⟩ := takes
  obtain rfl : c = ')' := eq_of_beq isParen
  obtain rfl : d = ';' := eq_of_beq isSemi
  exact ⟨gap, rfl, blank⟩

section End

variable {before closing after before' closing' after' : List Char}

section

variable (takes : createTableEnd.Takes closing) (takes' : createTableEnd.Takes closing')
  (same : before ++ (closing ++ after) = before' ++ (closing' ++ after'))

include takes takes' same

theorem createTableEnd_before (shorter : before.length < before'.length) :
    ∃ more, before' = before ++ (closing ++ more) := by
  obtain ⟨gap, rfl, blank⟩ := createTableEnd_parts takes
  obtain ⟨gap', rfl, -⟩ := createTableEnd_parts takes'
  have free : ')' ∉ gap ++ [';'] := by
    rw [mem_append]
    rintro (mem | mem)
    · exact absurd (blank _ mem) (by decide)
    · exact absurd mem (by decide)
  rcases append_eq_append_iff.mp same with ⟨front, rfl, tail⟩ | ⟨front, rfl, -⟩
  · cases front with
    | nil =>
      rw [append_nil] at shorter
      exact absurd shorter (Nat.lt_irrefl _)
    | cons c front =>
      obtain ⟨rfl, behind⟩ := List.cons.inj tail
      rcases append_eq_append_iff.mp behind with ⟨more, rfl, -⟩ | ⟨more, split, rest⟩
      · exact ⟨more, rfl⟩
      · cases more with
        | nil =>
          rw [append_nil] at split
          exact ⟨[], by rw [← split, append_nil]⟩
        | cons c more =>
          obtain ⟨rfl, -⟩ := List.cons.inj rest
          refine absurd ?_ free
          rw [split]
          exact mem_append_right _ mem_cons_self
  · rw [length_append] at shorter
    omega

theorem createTableEnd_le (shorter : before.length ≤ before'.length) :
    (before ++ closing).length ≤ (before' ++ closing').length := by
  rcases Nat.eq_or_lt_of_le shorter with equal | less
  · obtain ⟨rfl, rest⟩ := append_inj same equal
    obtain ⟨gap, rfl, blank⟩ := createTableEnd_parts takes
    obtain ⟨gap', rfl, blank'⟩ := createTableEnd_parts takes'
    have free {gap : List Char} (blank : ∀ c ∈ gap, isSpace c = true) : ';' ∉ ')' :: gap := by
      rw [mem_cons]
      rintro (other | mem)
      · exact absurd other (by decide)
      · exact absurd (blank _ mem) (by decide)
    have split (gap after : List Char) :
        ')' :: (gap ++ [';']) ++ after = (')' :: gap) ++ ';' :: after := by
      simp
    rw [split, split] at rest
    obtain ⟨front, -⟩ := Joined.cut_unique (free blank) (free blank') rest
    rw [(List.cons.inj front).2]
  · obtain ⟨more, rfl⟩ := createTableEnd_before takes takes' same less
    simp only [length_append]
    omega

end

end End

/-! ## The statements that are read -/

theorem createTable_first {hit : Hit Char} (first : (createTableRe.run text).head? = some hit) :
    ∃ head name columns closing, hit.text = head ++ (columns ++ closing) ∧
      hit.captures = [name, columns] ∧ text = head ++ (columns ++ (closing ++ hit.rest)) ∧
      createTableHead.Takes head ∧ createTableEnd.Takes closing ∧
      ∀ head' captures columns' closing' after, text = head' ++ (columns' ++ (closing' ++ after)) →
        createTableHead.Matches head' captures → createTableEnd.Takes closing' →
          head' = head ∧ captures = [name] ∧ columns.length ≤ columns'.length := by
  obtain ⟨earlier, one, later, two, listed, -, follows, rfl⟩ := run_seq_head? first
  have mem : one ∈ createTableHead.run text := listed ▸ mem_append_right _ mem_cons_self
  obtain ⟨split, front⟩ := mem_run.mp mem
  obtain ⟨columns, closing, captures, eq, rest, matched, least⟩ := run_few_head? follows
  have plain : createTableEnd.Plain := ⟨trivial, trivial, trivial⟩
  obtain rfl := matched.captures_eq plain
  obtain ⟨lead, name, quote, gap, named, -⟩ := createTableHead_parts front
  have text_eq : two.text = columns ++ closing := by rw [eq]
  have captures_eq : two.captures = [columns] := by rw [eq]
  refine ⟨one.text, name, columns, closing, congrArg _ text_eq, ?_, ?_, ⟨_, front⟩, ⟨_, matched⟩,
    ?_⟩
  · unfold Hit.andThen
    dsimp only
    rw [named, captures_eq]
    rfl
  · exact split.trans (congrArg _ rest)
  · intro head' captures columns' closing' after other front' takes'
    obtain ⟨captured, matched'⟩ := takes'
    obtain ⟨heads, names, rests⟩ :=
      createTableHead_unique front' front (other.symm.trans split)
    exact ⟨heads, names.trans named,
      least columns' closing' captured after rests.symm (fun _ _ => rfl) matched'⟩

structure ReadTable (sql before head columns closing after name : List Char) : Prop where
  text_eq : sql = before ++ (head ++ (columns ++ (closing ++ after)))
  front : createTableHead.Matches head [name]
  closes : createTableEnd.Takes closing
  unclosed : ¬ createTableEnd.Occurs columns
  apart : ∀ before' head' rest, sql = before' ++ (head' ++ rest) → createTableHead.Takes head' →
    before'.length < before.length → ∃ columns' closing' after', createTableEnd.Takes closing' ∧
      rest = columns' ++ (closing' ++ after') ∧
      (before' ++ (head' ++ (columns' ++ closing'))).length ≤ before.length

section Read

variable {sql before head columns closing after name : List Char}

/-- The loop comes to the statement. -/
theorem ReadTable.found (table : ReadTable sql before head columns closing after name) :
    ∃ found ∈ createTableRe.execAll sql (sql.length + 1) 0, found.start = before.length ∧
      found.captures = [name, columns] := by
  have drop_eq : sql.drop before.length = head ++ (columns ++ (closing ++ after)) := by
    rw [table.text_eq, drop_left]
  have takes : createTableRe.Takes (head ++ (columns ++ closing)) :=
    Takes.seq ⟨_, table.front⟩ (Takes.seq ⟨_, [], ⟨fun _ _ => rfl, rfl⟩, rfl⟩ table.closes)
  obtain ⟨captures, matched⟩ := takes
  have tried : (⟨head ++ (columns ++ closing), captures, after⟩ : Hit Char) ∈
      createTableRe.run (sql.drop before.length) :=
    mem_run.mpr ⟨by rw [drop_eq]; simp, matched⟩
  obtain ⟨hit, first⟩ := Option.isSome_iff_exists.mp (isSome_head?.mpr (ne_nil_of_mem tried))
  refine ⟨hit.foundAt before.length, mem_execAll first (fun matched captures => ?_)
    (fun i before' first => ?_) (Nat.zero_le _) (Nat.lt_succ_self _), rfl, ?_⟩
  · rintro ⟨one, two, _, _, front, -, rfl, -⟩ empty
    obtain ⟨lead, name, quote, gap, -, parts⟩ := createTableHead_parts front
    rw [parts.text_eq] at empty
    exact absurd empty (by simp)
  · intro here
    obtain ⟨head', name', columns', closing', text', -, split, ⟨_, front⟩, closes', least⟩ :=
      createTable_first here
    have whole : sql = sql.take i ++ (head' ++ (columns' ++ (closing' ++ first.rest))) := by
      rw [← split, take_append_drop]
    have short : i ≤ sql.length := by
      rw [table.text_eq, length_append]
      omega
    have start : (sql.take i).length = i := length_take_of_le short
    obtain ⟨columns'', closing'', after'', closes'', rest, bounded⟩ :=
      table.apart _ head' _ whole ⟨_, front⟩ (by rw [start]; exact before')
    obtain ⟨-, -, shorter⟩ :=
      least head' _ columns'' closing'' after'' (by rw [split, rest]) front closes''
    have ends := createTableEnd_le closes' closes'' rest shorter
    rw [text']
    simp only [length_append, start] at ends bounded ⊢
    omega
  · obtain ⟨head', name', columns', closing', -, captures', split, -, closes', least⟩ :=
      createTable_first first
    obtain ⟨rfl, names, shorter⟩ :=
      least head [name] columns closing after drop_eq table.front table.closes
    have rest : columns' ++ (closing' ++ hit.rest) = columns ++ (closing ++ after) :=
      append_cancel_left (split.symm.trans drop_eq)
    have same : columns'.length = columns.length := by
      refine Nat.le_antisymm shorter (Nat.le_of_not_lt fun less => table.unclosed ?_)
      obtain ⟨more, rfl⟩ := createTableEnd_before closes' table.closes rest less
      exact closes'.occurs
    obtain ⟨rfl, -⟩ := append_inj rest same
    exact captures'.trans (congrArg (· :: [columns']) (List.cons.inj names).1.symm)

end Read

/-! ## What a table has -/

/-- A policy on some table. -/
def anyPolicyRe : Regex Char := seq policyHead (seq anything (char (· == ';')))

def endsName (c : Char) : Bool := isSpace c || c == ';'

def ownPolicyRe (tableName : List Char) : Regex Char :=
  seq policyHead (seq quoteMark (seq (word tableName) (seq quoteMark
    (seq (opt (seq (char endsName) anything)) (char (· == ';'))))))

def longerNameRe (tableName : List Char) : Regex Char :=
  seq policyHead (seq quoteMark (seq (word tableName)
    (alt (char fun c => !(endsName c || c == '"'))
      (seq (char (· == '"')) (char fun c => !endsName c)))))

/-- A column whose name goes on before `tenant_id`. -/
def longerColumnRe : Regex Char := seq (char isWordChar) tenantColumnRe

def PolicyRefers (sql : List Char) (policyRe : Regex Char) : Prop :=
  ∃ front policy back, sql = front ++ (policy ++ back) ∧ policyRe.Takes policy ∧
    tenantIdRe.Occurs policy

structure TenantIsolated (sql name columns : List Char) : Prop where
  column : ∃ front column back, columns = front ++ (column ++ back) ∧
    tenantColumnRe.Takes column ∧ ∀ c ∈ front.getLast?, isWordChar c = false
  rls : (enableRlsRe name).Occurs sql
  policy : PolicyRefers sql (ownPolicyRe name)

structure TableGuarded (sql name columns : List Char) : Prop where
  column : tenantColumnRe.Occurs columns
  rls : (enableRlsRe name).Occurs sql
  policy : PolicyRefers sql anyPolicyRe
  isolated : ¬ longerColumnRe.Occurs columns → ¬ (longerNameRe name).Occurs sql →
    TenantIsolated sql name columns

theorem tenantColumn_own (occurs : tenantColumnRe.Occurs columns)
    (alone : ¬ longerColumnRe.Occurs columns) :
    ∃ front column back, columns = front ++ (column ++ back) ∧ tenantColumnRe.Takes column ∧
      ∀ c ∈ front.getLast?, isWordChar c = false := by
  obtain ⟨front, column, captures, back, rfl, matched⟩ := occurs
  refine ⟨front, column, back, rfl, ⟨captures, matched⟩, fun c last => ?_⟩
  by_contra letter
  rw [Bool.not_eq_false] at letter
  obtain ⟨front, rfl⟩ := getLast?_eq_some_iff.mp last
  have longer : longerColumnRe.Takes ([c] ++ column) :=
    Takes.seq ⟨[], ⟨c, letter, rfl⟩, rfl⟩ ⟨captures, matched⟩
  have occurs : longerColumnRe.Occurs (front ++ ([c] ++ column ++ back)) := longer.occurs
  refine alone ?_
  simpa only [append_assoc] using occurs

theorem policyStatement_own {sql name policy front back : List Char}
    (split : sql = front ++ (policy ++ back)) (takes : (policyStatementRe name).Takes policy)
    (alone : ¬ (longerNameRe name).Occurs sql) : (ownPolicyRe name).Takes policy := by
  obtain ⟨_, head, _, _, _, headed, ⟨mark, _, _, _, opened, ⟨named, _, _, _, matched,
    ⟨mark', _, _, _, closed, ⟨body, _, _, _, -, ⟨⟨last, isSemi, rfl⟩, rfl⟩, rfl, rfl⟩, rfl, rfl⟩,
    rfl, rfl⟩, rfl, rfl⟩, rfl, rfl⟩ := takes
  obtain rfl : last = ';' := eq_of_beq isSemi
  obtain ⟨quoted, -⟩ := quoteMark_matches closed
  have semicolon : (char (· == ';') : Regex Char).Takes [';'] := ⟨[], ⟨';', rfl, rfl⟩, rfl⟩
  have quote : (char (· == '"') : Regex Char).Takes ['"'] := ⟨[], ⟨'"', rfl, rfl⟩, rfl⟩
  have own {mark' body : List Char} (closed : quoteMark.Takes mark')
      (ends : ∀ c ∈ body.head?, endsName c) :
      (ownPolicyRe name).Takes (head ++ (mark ++ (named ++ (mark' ++ (body ++ [';']))))) := by
    refine .seq ⟨_, headed⟩ (.seq ⟨_, opened⟩ (.seq ⟨_, matched⟩ (.seq closed (.seq ?_ semicolon))))
    cases body with
    | nil => exact ⟨[], .inr ⟨rfl, rfl⟩⟩
    | cons c body =>
      exact ⟨[], .inl ⟨[c], body, [], [], ⟨⟨c, ends c rfl, rfl⟩, rfl⟩, ⟨fun _ _ => rfl, rfl⟩,
        rfl, rfl⟩⟩
  have other (longer rest : List Char) (takes : (alt (char fun c => !(endsName c || c == '"'))
      (seq (char (· == '"')) (char fun c => !endsName c))).Takes longer)
      (text : mark' ++ (body ++ [';']) = longer ++ rest) : False := by
    have begins : (longerNameRe name).Takes (head ++ (mark ++ (named ++ longer))) :=
      .seq ⟨_, headed⟩ (.seq ⟨_, opened⟩ (.seq ⟨_, matched⟩ takes))
    refine alone ?_
    have occurs : (longerNameRe name).Occurs
        (front ++ (head ++ (mark ++ (named ++ longer)) ++ (rest ++ back))) := begins.occurs
    rw [split, text]
    simpa only [append_assoc] using occurs
  have single (p : Char → Bool) (c : Char) (chosen : p c) : (char p).Takes [c] :=
    ⟨[], ⟨c, chosen, rfl⟩, rfl⟩
  -- behind a quote the name has ended, or another one goes on
  have behind {rest : List Char} (text : mark' ++ (body ++ [';']) = ['"'] ++ (rest ++ [';'])) :
      (ownPolicyRe name).Takes (head ++ (mark ++ (named ++ (['"'] ++ (rest ++ [';']))))) := by
    refine own ⟨[], .inl ⟨⟨'"', rfl, rfl⟩, rfl⟩⟩ fun c first => ?_
    by_contra goesOn
    obtain ⟨rest, rfl⟩ := head?_eq_some_iff.mp first
    obtain ⟨captures, matched⟩ :=
      quote.seq (single (fun c => !endsName c) c (by simpa using goesOn))
    exact other ['"', c] (rest ++ [';']) ⟨captures, .inr matched⟩ text
  rcases quoted with rfl | rfl
  · cases body with
    | nil => exact own ⟨_, closed⟩ nofun
    | cons c body =>
      by_cases ends : endsName c = true
      · exact own ⟨_, closed⟩ fun d first => by cases first; exact ends
      · by_cases marked : c = '"'
        · obtain rfl := marked
          exact behind rfl
        · obtain ⟨captures, matched⟩ := single (p := fun c => !(endsName c || c == '"')) (c := c)
            (by simp [ends, marked])
          exact (other [c] (body ++ [';']) ⟨captures, .inl matched⟩ rfl).elim
  · exact behind rfl

/-! ## What the lint accepts -/

theorem policyHead_any (takes : (policyStatementRe name).Takes policy) :
    anyPolicyRe.Takes policy := by
  obtain ⟨_, head, rest, _, _, headed, ⟨mark, _, _, _, -, ⟨named, _, _, _, -, ⟨mark', _, _, _, -,
    ⟨body, last, _, _, -, semicolon, rfl, rfl⟩, rfl, rfl⟩, rfl, rfl⟩, rfl, rfl⟩, rfl, rfl⟩ := takes
  have takes : anyPolicyRe.Takes (head ++ ((mark ++ (named ++ (mark' ++ body))) ++ last)) :=
    .seq ⟨_, headed⟩ (.seq ⟨[], fun _ _ => rfl, rfl⟩ ⟨_, semicolon⟩)
  simpa only [append_assoc] using takes

theorem tableGuarded_of_turn {found : Found Char} (captured : found.captures = [name, columns])
    (nonempty : name ≠ [])
    (marked : ¬ notTenantScopedMarker.Occurs (precedingComment sql found.start))
    (none_ : tableViolations sql found = []) : TableGuarded sql name columns := by
  obtain ⟨c, letters, rfl⟩ := exists_cons_of_ne_nil nonempty
  unfold tableViolations at none_
  rw [captured] at none_
  dsimp only [head?_cons, getElem?_cons_succ, getElem?_cons_zero, Option.getD_some] at none_
  rw [if_neg fun marks => marked (test_iff.mp marks)] at none_
  cases hasTenantId : tenantColumnRe.test columns with
  | false =>
    rw [hasTenantId] at none_
    cases none_
  | true =>
    rw [hasTenantId] at none_
    obtain ⟨enabled, policies⟩ := append_eq_nil_iff.mp none_
    have rls : (enableRlsRe (c :: letters)).Occurs sql := by
      refine test_iff.mp ?_
      cases tested : (enableRlsRe (c :: letters)).test sql with
      | false =>
        rw [tested] at enabled
        cases enabled
      | true => rfl
    cases searched : (policyStatementRe (c :: letters)).exec sql 0 with
    | none =>
      rw [searched] at policies
      cases policies
    | some policyStatement =>
      rw [searched] at policies
      obtain ⟨front, back, split, takes⟩ := exec_takes searched
      have refers : tenantIdRe.Occurs policyStatement.text := by
        refine test_iff.mp ?_
        cases tested : tenantIdRe.test policyStatement.text with
        | false =>
          dsimp only at policies
          rw [tested] at policies
          cases policies
        | true => rfl
      have column := test_iff.mp hasTenantId
      exact ⟨column, rls, ⟨front, _, back, split, policyHead_any takes, refers⟩,
        fun alone single => ⟨tenantColumn_own column alone, rls, front, _, back, split,
          policyStatement_own split takes single, refers⟩⟩

theorem tables_guarded {sql : String} (accepted : (lintPluginMigration sql).violations = [])
    (table : ReadTable sql.toList before head columns closing after name)
    (checked : ¬ notTenantScopedMarker.Occurs (sinceSemicolon before)) :
    TableGuarded sql.toList name columns := by
  obtain ⟨found, mem, start, captured⟩ := table.found
  obtain ⟨lead, _, quote, gap, named, parts⟩ := createTableHead_parts table.front
  obtain ⟨rfl, -⟩ := List.cons.inj named
  refine tableGuarded_of_turn captured parts.nonempty ?_ (flatMap_eq_nil_iff.mp accepted found mem)
  unfold precedingComment
  rw [start, table.text_eq, take_left]
  exact checked

/-- Every table that the lint reads in a text that it accepts, and that has not opted out, has what
it should have. -/
theorem lint_sound {sql : String} {before head columns closing after name : List Char}
    (accepted : (lintPluginMigration sql).ok)
    (table : ReadTable sql.toList before head columns closing after name)
    (checked : ¬ notTenantScopedMarker.Occurs (sinceSemicolon before)) :
    TableGuarded sql.toList name columns :=
  tables_guarded (List.isEmpty_iff.mp accepted) table checked

def widgetsSql : String :=
  "CREATE TABLE w (tenant_id uuid NOT NULL); " ++
    ("ALTER TABLE w ENABLE ROW LEVEL SECURITY; " ++ "CREATE POLICY p ON w USING (tenant_id = 1);")

/-- A migration with one table. -/
theorem lint_sound_widgets :
    TableGuarded widgetsSql.toList "w".toList "tenant_id uuid NOT NULL".toList := by
  have letters : widgetsSql.toList = "CREATE TABLE w (tenant_id uuid NOT NULL); ".toList ++
      ("ALTER TABLE w ENABLE ROW LEVEL SECURITY; ".toList ++
        "CREATE POLICY p ON w USING (tenant_id = 1);".toList) := by
    exact (String.toList_append ..).trans (congrArg _ (String.toList_append ..))
  have accepted : (lintPluginMigration widgetsSql).ok := by
    unfold lintPluginMigration
    rw [letters]
    decide +kernel
  have statement : "CREATE TABLE w (tenant_id uuid NOT NULL); ".toList =
      "CREATE TABLE w (".toList ++ ("tenant_id uuid NOT NULL".toList ++ (");".toList ++ [' '])) := by
    decide +kernel
  have front : (⟨"CREATE TABLE w (".toList, ["w".toList], []⟩ : Hit Char) ∈
      createTableHead.run "CREATE TABLE w (".toList := by
    decide +kernel
  have closes : (⟨");".toList, [], []⟩ : Hit Char) ∈ createTableEnd.run ");".toList := by
    decide +kernel
  have unclosed : createTableEnd.test "tenant_id uuid NOT NULL".toList = false := by
    decide +kernel
  have unmarked : notTenantScopedMarker.test [] = false := by
    decide +kernel
  have text_eq : widgetsSql.toList = [] ++ ("CREATE TABLE w (".toList ++
      ("tenant_id uuid NOT NULL".toList ++ (");".toList ++ ([' '] ++
        ("ALTER TABLE w ENABLE ROW LEVEL SECURITY; ".toList ++
          "CREATE POLICY p ON w USING (tenant_id = 1);".toList))))) := by
    rw [letters, statement]
    simp only [append_assoc, nil_append]
  refine lint_sound accepted ⟨text_eq, (mem_run.mp front).2, ⟨[], (mem_run.mp closes).2⟩, ?_, ?_⟩ ?_
  · exact fun occurs => Bool.eq_false_iff.mp unclosed (test_iff.mpr occurs)
  · exact fun _ _ _ _ _ shorter => absurd shorter (Nat.not_lt_zero _)
  · exact fun occurs => Bool.eq_false_iff.mp unmarked (test_iff.mpr occurs)

/-! ### Another spelling -/

def anyTableRe : Regex Char :=
  seq (spaced ["CREATE"]) (seq (opt (spaced ["UNLOGGED"])) (seq (spaced ["TABLE"])
    (seq (opt (spaced ["IF", "NOT", "EXISTS"]))
    (seq (opt (seq (plus fun c => c != '(' && c != '.') (char (· == '.')))) (seq quoteMark
    (seq (group (plus fun c => c != '(' && c != '"' && !isSpace c)) (seq quoteMark (seq (star isSpace)
    (seq (char (· == '(')) (seq (group anything) (seq (char (· == ')'))
    (seq (few (· != ';')) (char (· == ';'))))))))))))))

def LintSoundFor (sql : String) : Prop :=
  (lintPluginMigration sql).ok = true → ∀ before statement after name columns,
    sql.toList = before ++ (statement ++ after) → anyTableRe.Matches statement [name, columns] →
      (∀ c ∈ sinceSemicolon before, isSpace c = true) → TenantIsolated sql.toList name columns

/-- An unlogged table is not looked at. -/
theorem lint_misses_unlogged : ¬ LintSoundFor "CREATE UNLOGGED TABLE widgets (id uuid);" := by
  intro sound
  have accepted : (lintPluginMigration "CREATE UNLOGGED TABLE widgets (id uuid);").ok := by
    decide +kernel
  have created : (⟨"CREATE UNLOGGED TABLE widgets (id uuid);".toList,
      ["widgets".toList, "id uuid".toList], []⟩ : Hit Char) ∈
        anyTableRe.run "CREATE UNLOGGED TABLE widgets (id uuid);".toList := by
    decide +kernel
  have tenantless : tenantColumnRe.test "id uuid".toList = false := by
    decide +kernel
  obtain ⟨⟨front, column, back, split, ⟨captures, matched⟩, -⟩, -, -⟩ :=
    sound accepted [] _ [] _ _ (append_nil _).symm (mem_run.mp created).2 nofun
  exact Bool.eq_false_iff.mp tenantless
    (test_iff.mpr ⟨front, column, captures, back, split, matched⟩)

/-! ## Plugins that are installed -/

/-- The service with the lint of the repository. -/
def PluginEnv.linted : PluginEnv := ⟨fun sql => (OpenWind.lintPluginMigration sql).violations⟩

theorem Installs.tableGuarded {catalog : PluginCatalog} {tenantId : Id} {pluginSlug : String}
    {opts : InstallPluginOptions} {chance : PluginChance} {db : PluginDb}
    {plugin : PluginDefinition} {manifest : Fields}
    (installs : Installs .linted catalog tenantId pluginSlug opts chance db plugin manifest)
    (table : ReadTable opts.migrationSql.toList before head columns closing after name)
    (checked : ¬ notTenantScopedMarker.Occurs (sinceSemicolon before)) :
    TableGuarded opts.migrationSql.toList name columns :=
  tables_guarded installs.lints table checked

end OpenWind
