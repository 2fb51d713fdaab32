import NewsCentral.Text.Pattern
import NewsCentral.Dart.Uri

/-
  The video of a post: the class `Videos` of
  `lib/common/tools.dart`.

  The link of a video is searched in the content of a post
  with three regular expressions, and loaded in a web view.
  Their dots are not escaped, so that the ones of the host
  stand for any character.

  Key definitions include:
    * `NewsCentral.Videos.getVideoLink`
    * `NewsCentral.VideoKind.Linked`
    * `NewsCentral.Videos.Trusted`
    * `NewsCentral.Videos.PicksLiteralHost`

  Key theorems include:
    * `NewsCentral.VideoKind.url_of_first`
    * `NewsCentral.VideoKind.trustedHost_iff`
    * `NewsCentral.Videos.trusted_iff`
-/

------------------------------------------------------------
-- Links In A Content
------------------------------------------------------------

namespace NewsCentral

open Dart Text

namespace Videos

/- A dot stands for one code unit that ends no line. -/
def wildcard (c : Char) : Bool :=
  c.toNat < 0x10000 ∧
    c ∉ ['\n', '\r', '\u2028', '\u2029']

/- A dot that is escaped. -/
def literalDot (c : Char) : Bool :=
  c = '.'

/- A character of a regular expression, in either case. -/
def reads
    (dot : Char → Bool)
    (c x : Char) : Bool :=
  if c = '.' then dot x else x.toLower = c.toLower

/- A part of a regular expression without operators. -/
def source
    (dot : Char → Bool)
    (text : String) : Pattern Char :=
  .literal (text.toList.map (reads dot))

/- `https://`, a host, and what follows on its slash. -/
def link
    (dot : Char → Bool)
    (host : String)
    (path : Pattern Char) : Pattern Char :=
  .seq (source dot "https://")
    (.seq (source dot host) (.seq (source dot "/") path))

/- `[a-zA-Z0-9_-]` -/
def isVideoLetter (c : Char) : Bool :=
  c.isAlphanum || c = '_' || c = '-'

/- `[a-zA-Z0-9.]` -/
def isUserLetter (c : Char) : Bool :=
  c.isAlphanum || c = '.'

/- `((v|embed))/?[a-zA-Z0-9_-]+` -/
def youtubePath (dot : Char → Bool) : Pattern Char :=
  .seq
    (.group
      (.group (.either (source dot "v") (source dot "embed"))))
    (.seq (.optional (source dot "/"))
      (.repeated isVideoLetter))

/- `[a-zA-Z0-9.]+/videos/(?:[a-zA-Z0-9.]+/)?([0-9]+)` -/
def facebookPath (dot : Char → Bool) : Pattern Char :=
  .seq (.repeated isUserLetter)
    (.seq (source dot "/videos/")
      (.seq
        (.optional
          (.seq (.repeated isUserLetter) (source dot "/")))
        (.group (.repeated Char.isDigit))))

/- `((v|video))/?[0-9]+` -/
def vimeoPath (dot : Char → Bool) : Pattern Char :=
  .seq
    (.group
      (.group (.either (source dot "v") (source dot "video"))))
    (.seq (.optional (source dot "/"))
      (.repeated Char.isDigit))

def youtube (dot : Char → Bool) : Pattern Char :=
  link dot "www.youtube.com" (youtubePath dot)

def facebook (dot : Char → Bool) : Pattern Char :=
  link dot "www.facebook.com" (facebookPath dot)

def vimeo (dot : Char → Bool) : Pattern Char :=
  link dot "player.vimeo.com" (vimeoPath dot)

/- The first match of a content; what is thrown is caught. -/
def firstLink
    (regExp : Pattern Char)
    (url : Match Char → Option String)
    (content : Option String) : Option String :=
  match content with
  | none => none
  | some content =>
      match regExp.firstMatch content.toList with
      | none => none
      | some m => url m

/- `group(0)` -/
def wholeMatch (m : Match Char) : Option String :=
  some (String.ofList m.text)

/- The embedded player of the video in `group(1)`. -/
def facebookUrl (m : Match Char) : Option String :=
  match m.groups with
  | some id :: _ =>
      some
        ("https://www.facebook.com/video/embed?video_id=" ++
          String.ofList id)
  | _ => none

def getYoutubeLink : Option String → Option String :=
  firstLink (youtube wildcard) wholeMatch

def getFacebookLink : Option String → Option String :=
  firstLink (facebook wildcard) facebookUrl

def getVimeoLink : Option String → Option String :=
  firstLink (vimeo wildcard) wholeMatch

def getVideoLink (content : Option String) : Option String :=
  if getYoutubeLink content ≠ none then
    getYoutubeLink content
  else if getFacebookLink content ≠ none then
    getFacebookLink content
  else
    getVimeoLink content

end Videos

/- The kinds of links, in the order of their preference. -/
inductive VideoKind where
  | youtube
  | facebook
  | vimeo
deriving DecidableEq

namespace VideoKind

open Videos

def rank : VideoKind → Nat
  | .youtube => 0
  | .facebook => 1
  | .vimeo => 2

def host : VideoKind → String
  | .youtube => "www.youtube.com"
  | .facebook => "www.facebook.com"
  | .vimeo => "player.vimeo.com"

def path
    (kind : VideoKind)
    (dot : Char → Bool) : Pattern Char :=
  match kind with
  | .youtube => youtubePath dot
  | .facebook => facebookPath dot
  | .vimeo => vimeoPath dot

/- The links of a kind; the dots may stand for more. -/
def pattern
    (kind : VideoKind)
    (dot : Char → Bool) : Pattern Char :=
  link dot kind.host (kind.path dot)

/- What is loaded for a link. -/
def url
    (kind : VideoKind)
    (m : Match Char) : Option String :=
  match kind with
  | .facebook => facebookUrl m
  | _ => wholeMatch m

/- The content contains a link. -/
def Linked
    (kind : VideoKind)
    (dot : Char → Bool)
    (content : Option String) : Prop :=
  ∃ text ∈ content, ∃ before m,
    (kind.pattern dot).Occurs text.toList before m

/- The leftmost link of the content. -/
def First
    (kind : VideoKind)
    (dot : Char → Bool)
    (content : Option String)
    (m : Match Char) : Prop :=
  ∃ text ∈ content, ∃ before,
    (kind.pattern dot).Leftmost text.toList before m

/- No link of a kind that is preferred. -/
def Preferred
    (kind : VideoKind)
    (dot : Char → Bool)
    (content : Option String) : Prop :=
  ∀ other : VideoKind, other.rank < kind.rank →
    ¬ other.Linked dot content

end VideoKind

namespace Videos

/- The web view loads something from one of the hosts. -/
def TrustedHost (url : String) : Prop :=
  ∃ uri ∈ Uri.parse url.toList,
    uri.scheme = "https" ∧
      ∃ kind : VideoKind, uri.host = kind.host

/-
  The video of a content is the leftmost link of the
  preferred kind, on exactly the host of this kind.
-/
structure Trusted (content : Option String) : Prop where
  host : ∀ url ∈ getVideoLink content, TrustedHost url
  null :
    getVideoLink content = none ↔
      ∀ kind : VideoKind, ¬ kind.Linked literalDot content
  chosen :
    ∀ url ∈ getVideoLink content,
      ∃ (kind : VideoKind) (m : Match Char),
        kind.Preferred literalDot content ∧
          kind.First literalDot content m ∧
          kind.url m = some url

/-
  What reads like a link if dots stand for any character,
  and is leftmost and preferred among such texts, has the
  dots of the host; or the first link of Facebook that has
  them leads to the same video.
-/
def PicksLiteralHost (content : Option String) : Prop :=
  ∀ (kind : VideoKind) (m : Match Char),
    kind.Preferred wildcard content →
    kind.First wildcard content m →
      (kind.pattern literalDot).Matches m.text m.groups ∨
        kind = .facebook ∧
          ∃ n, kind.First literalDot content n ∧
            kind.url n = kind.url m

end Videos

end NewsCentral

------------------------------------------------------------
-- Reading A Source
------------------------------------------------------------

namespace NewsCentral

open Dart Text

namespace Videos

variable {dot : Char → Bool} {c x : Char} {text : String}
variable {u : List Char}
variable {g : List (Option (List Char))}

/- The texts of the expressions are in lower case. -/
def IsLower (text : String) : Prop :=
  text.toList.map Char.toLower = text.toList

instance (text : String) : Decidable (IsLower text) :=
  inferInstanceAs (Decidable (_ = text.toList))

theorem IsLower.toLower
    (hLower : IsLower text) :
    ∀ c ∈ text.toList, c.toLower = c := by
  refine List.map_inj_left.mp ?_
  rw [hLower, List.map_id']

theorem matches_source_iff :
    (source dot text).Matches u g ↔
      List.Forall₂ (fun c x => reads dot c x = true)
          text.toList u ∧ g = [] := by
  rw [source, Pattern.matches_literal_iff,
    List.forall₂_map_left_iff]

/- Without a dot the case is all that is left open. -/
theorem source_congr
    (other : Char → Bool)
    (hPlain : '.' ∉ text.toList) :
    source dot text = source other text := by
  unfold source
  congr 1
  refine List.map_congr_left ?_
  intro c hMem
  have hOther : c ≠ '.' := fun hDot => hPlain (hDot ▸ hMem)
  funext x
  rw [reads, if_neg hOther, reads, if_neg hOther]

theorem reads_literalDot
    (hLower : c.toLower = c) :
    reads literalDot c x = true ↔ x.toLower = c := by
  unfold reads
  by_cases hDot : c = '.'
  · rw [if_pos hDot, hDot, toLower_eq_iff rfl rfl,
      literalDot, decide_eq_true_eq]
  · rw [if_neg hDot, hLower, decide_eq_true_eq]

/- Wildcards stand for dots, too. -/
theorem reads_wildcard
    (hReads : reads literalDot c x = true) :
    reads wildcard c x = true := by
  unfold reads at hReads ⊢
  by_cases hDot : c = '.'
  · rw [if_pos hDot, literalDot, decide_eq_true_eq] at hReads
    rw [if_pos hDot, hReads]
    rfl
  · rw [if_neg hDot] at hReads ⊢
    exact hReads

/- With literal dots a source is read in any case. -/
theorem forall₂_literalDot_iff
    {ts : List Char}
    (hLower : ∀ c ∈ ts, c.toLower = c) :
    List.Forall₂ (fun c x => reads literalDot c x = true)
        ts u ↔ u.map Char.toLower = ts := by
  induction ts generalizing u with
  | nil => simp
  | cons c ts ih =>
      cases u with
      | nil => simp
      | cons x u =>
          rw [List.forall₂_cons, List.map_cons,
            List.cons.injEq,
            reads_literalDot (hLower c (List.mem_cons_self ..)),
            ih fun d hMem =>
              hLower d (List.mem_cons_of_mem _ hMem)]

/- How often a letter can be read. -/
theorem count_reads_le
    {ts : List Char}
    (c : Char)
    (hReads :
      List.Forall₂ (fun c x => reads dot c x = true) ts u)
    (hLower : ∀ d ∈ ts, d.toLower = d) :
    (u.map Char.toLower).count c ≤
      ts.count c + ts.count '.' := by
  induction hReads with
  | nil => exact Nat.zero_le _
  | @cons d x ts u hHead hTail ih =>
      have hMore :=
        ih fun e hMem => hLower e (List.mem_cons_of_mem _ hMem)
      have hSame := hLower d (List.mem_cons_self ..)
      simp only [List.map_cons, List.count_cons, beq_iff_eq]
      unfold reads at hHead
      split at hHead
      next hDot =>
        simp only [hDot, if_true]
        split <;> split <;> omega
      next =>
        rw [decide_eq_true_eq, hSame] at hHead
        rw [hHead]
        omega

/- A text without dots is read in lower case. -/
theorem matches_plain_iff
    {text : String}
    (hPlain : '.' ∉ text.toList)
    (hLower : IsLower text) :
    (source dot text).Matches u g ↔
      u.map Char.toLower = text.toList ∧ g = [] := by
  rw [source_congr literalDot hPlain, matches_source_iff,
    forall₂_literalDot_iff hLower.toLower]

/- A slash is read as itself. -/
theorem matches_slash_iff :
    (source dot "/").Matches u g ↔ u = ['/'] ∧ g = [] := by
  rw [matches_plain_iff (by decide) (by decide)]
  refine and_congr_left fun _ => ?_
  change u.map Char.toLower = ['/'] ↔ _
  constructor
  · intro hMap
    rw [List.map_eq_singleton_iff] at hMap
    rcases hMap with ⟨x, rfl, hX⟩
    rw [toLower_eq_iff rfl rfl] at hX
    rw [hX]
  · rintro rfl
    rfl

/- A link has its scheme, its host and its path. -/
theorem matches_link_iff
    {host : String}
    {path : Pattern Char} :
    (link dot host path).Matches u g ↔
      ∃ scheme authority rest,
        scheme.map Char.toLower = "https".toList ∧
          List.Forall₂ (fun c x => reads dot c x = true)
            host.toList authority ∧
          path.Matches rest g ∧
          u =
            scheme ++ ':' :: '/' :: '/' ::
              (authority ++ '/' :: rest) := by
  unfold link
  constructor
  · intro hMatch
    cases hMatch with
    | seq hFront hBack =>
        cases hBack with
        | seq hHost hBack =>
            cases hBack with
            | seq hMiddle hPath =>
                rw [matches_plain_iff (by decide) (by decide)]
                  at hFront
                rcases hFront with ⟨hMap, rfl⟩
                rcases matches_source_iff.mp hHost with
                  ⟨hReads, rfl⟩
                rcases matches_slash_iff.mp hMiddle with
                  ⟨rfl, rfl⟩
                change _ = "https".toList ++ [':', '/', '/']
                  at hMap
                rw [List.map_eq_append_iff] at hMap
                rcases hMap with ⟨s, t, rfl, hS, hT⟩
                simp only [List.map_eq_cons_iff,
                  List.map_eq_nil_iff] at hT
                rcases hT with
                  ⟨a, _, rfl, hA, b, _, rfl, hB, d, _, rfl, hD,
                    rfl⟩
                rw [toLower_eq_iff rfl rfl] at hA hB hD
                subst hA hB hD
                exact
                  ⟨s, _, _, hS, hReads, hPath, by simp⟩
  · rintro ⟨s, h, p, hS, hReads, hPath, rfl⟩
    have hFront :
        (source dot "https://").Matches
          (s ++ [':', '/', '/']) [] := by
      rw [matches_plain_iff (by decide) (by decide),
        List.map_append, hS]
      exact ⟨rfl, rfl⟩
    have hMiddle : (source dot "/").Matches ['/'] [] :=
      matches_slash_iff.mpr ⟨rfl, rfl⟩
    have hAll :=
      Pattern.Matches.seq hFront
        (.seq (matches_source_iff.mpr ⟨hReads, rfl⟩)
          (.seq hMiddle hPath))
    simpa using hAll

end Videos

end NewsCentral

------------------------------------------------------------
-- Longest Links First
------------------------------------------------------------

namespace NewsCentral

open Dart Text Pattern

namespace Videos

variable {dot : Char → Bool} {u : List Char}
variable {g : List (Option (List Char))}

theorem longest_link
    {host : String}
    {path : Pattern Char}
    (hLongest : path.Longest) :
    (link dot host path).Longest :=
  longest_seq (separated_literal _ _)
    (longest_seq (separated_literal _ _)
      (longest_seq (separated_literal _ _) hLongest))

/- An optional slash is one of no letter behind it. -/
theorem separated_slash
    {p : Char → Bool}
    (hSlash : p '/' = false) :
    Separated (optional (source dot "/")) (repeated p) := by
  intro u v r u' v' r' g h g' h' hU hV hU' hV' hSame
  have hOne :
      ∀ {w : List Char} {k : List (Option (List Char))},
        (optional (source dot "/")).Matches w k →
          w = [] ∨ w = ['/'] := by
    intro w k hMatch
    cases hMatch with
    | taken hTaken => exact .inr (matches_slash_iff.mp hTaken).1
    | skipped => exact .inl rfl
  have hLetter :
      ∀ {w x y : List Char} {k : List (Option (List Char))},
        (repeated p).Matches w k → w ++ x ≠ '/' :: y := by
    intro w x y k hMatch hHead
    rcases exists_of_repeated hMatch with
      ⟨_, c, v, rfl, hLetter, _⟩
    rw [List.cons_append, List.cons.injEq] at hHead
    rw [hHead.1, hSlash] at hLetter
    cases hLetter
  rcases hOne hU with rfl | rfl <;>
    rcases hOne hU' with rfl | rfl
  · rfl
  · exact (hLetter hV hSame).elim
  · exact (hLetter hV' hSame.symm).elim
  · rfl

/- The group matches the short word or the long one. -/
theorem word_of_either
    {long : String}
    (hPlain : '.' ∉ long.toList)
    (hLower : IsLower long)
    (hMatch :
      (group (group (either (source dot "v")
        (source dot long)))).Matches u g) :
    u.map Char.toLower = ['v'] ∨
      u.map Char.toLower = long.toList := by
  cases hMatch with
  | group hMatch =>
      cases hMatch with
      | group hMatch =>
          cases hMatch with
          | left hLeft =>
              exact .inl
                ((matches_plain_iff (by decide)
                  (by decide)).mp hLeft).1
          | right hRight =>
              exact .inr
                ((matches_plain_iff hPlain hLower).mp hRight).1

/- What follows on a word starts with a slash or a letter. -/
theorem start_of_letters
    {p : Char → Bool}
    (hMatch :
      (seq (optional (source dot "/"))
        (repeated p)).Matches u g) :
    ∃ x y, u = x :: y ∧ (x = '/' ∨ p x = true) := by
  cases hMatch with
  | seq hSlash hLetters =>
      cases hSlash with
      | taken hTaken =>
          rcases matches_slash_iff.mp hTaken with ⟨rfl, _⟩
          exact ⟨'/', _, rfl, .inl rfl⟩
      | skipped =>
          rcases exists_of_repeated hLetters with
            ⟨_, x, y, rfl, hLetter, _⟩
          exact ⟨x, y, rfl, .inr hLetter⟩

/- What follows on the words starts apart from the longer. -/
theorem separated_either
    {long : String}
    {p : Char → Bool}
    (hPlain : '.' ∉ long.toList)
    (hLower : IsLower long)
    (hLength : 2 ≤ long.toList.length)
    (hApart :
      ∀ c x w,
        (c :: x :: w).map Char.toLower = long.toList →
        c.toLower = 'v' → x ≠ '/' ∧ p x = false) :
    Separated
      (group
        (group (either (source dot "v") (source dot long))))
      (seq (optional (source dot "/")) (repeated p)) := by
  have hMixed :
      ∀ {w w' v r y : List Char}
        {k : List (Option (List Char))},
        w.map Char.toLower = ['v'] →
        w'.map Char.toLower = long.toList →
        (seq (optional (source dot "/"))
          (repeated p)).Matches v k →
        w ++ (v ++ r) ≠ w' ++ y := by
    intro w w' v r y k hW hW' hV hSame
    rcases start_of_letters hV with ⟨x, z, rfl, hX⟩
    rw [List.map_eq_singleton_iff] at hW
    rcases hW with ⟨c, rfl, hC⟩
    have hTwo : 2 ≤ w'.length := by
      rw [← hW', List.length_map] at hLength
      exact hLength
    cases w' with
    | nil => cases hTwo
    | cons d w' =>
        cases w' with
        | nil => exact absurd hTwo (by simp)
        | cons e w' =>
            simp only [List.cons_append, List.nil_append,
              List.cons.injEq] at hSame
            rcases hSame with ⟨rfl, rfl, _⟩
            rcases hApart c x w' hW' hC with ⟨hNot, hNone⟩
            rcases hX with hSlash | hLetter
            · exact hNot hSlash
            · rw [hNone] at hLetter
              cases hLetter
  intro u v r u' v' r' g h g' h' hU hV hU' hV' hSame
  have hLengths :
      u.map Char.toLower = u'.map Char.toLower → u = u' := by
    intro hMaps
    have hLength := congrArg List.length hMaps
    rw [List.length_map, List.length_map] at hLength
    exact (List.append_inj hSame hLength).1
  rcases word_of_either hPlain hLower hU with
      hShort | hLong <;>
    rcases word_of_either hPlain hLower hU' with
      hShort' | hLong'
  · exact hLengths (hShort.trans hShort'.symm)
  · exact (hMixed hShort hLong' hV hSame).elim
  · exact (hMixed hShort' hLong hV' hSame.symm).elim
  · exact hLengths (hLong.trans hLong'.symm)

theorem longest_youtubePath
    (dot : Char → Bool) :
    (youtubePath dot).Longest := by
  refine longest_seq ?_
    (longest_seq (separated_slash rfl) (longest_repeated _))
  refine separated_either (by decide) (by decide)
    (by decide) ?_
  intro c x w hMap hV
  change _ = 'e' :: 'm' :: ['b', 'e', 'd'] at hMap
  rw [List.map_cons, hV] at hMap
  cases hMap

theorem longest_vimeoPath
    (dot : Char → Bool) :
    (vimeoPath dot).Longest := by
  refine longest_seq ?_
    (longest_seq (separated_slash rfl) (longest_repeated _))
  refine separated_either (by decide) (by decide)
    (by decide) ?_
  intro c x w hMap _
  change _ = 'v' :: 'i' :: ['d', 'e', 'o'] at hMap
  rw [List.map_cons, List.map_cons, List.cons.injEq,
    List.cons.injEq] at hMap
  have hX := hMap.2.1
  constructor
  · rintro rfl
    cases hX
  · by_contra hDigit
    rw [Bool.not_eq_false] at hDigit
    rw [toLower_of_isDigit hDigit] at hX
    rw [hX] at hDigit
    cases hDigit

/- `/videos/` starts with a slash. -/
theorem exists_of_videos
    (hMatch : (source dot "/videos/").Matches u g) :
    ∃ v, u = '/' :: v := by
  rw [matches_plain_iff (by decide) (by decide)] at hMatch
  cases u with
  | nil => cases hMatch.1
  | cons c u =>
      have hMap := hMatch.1
      change _ = '/' :: ['v', 'i', 'd', 'e', 'o', 's', '/']
        at hMap
      rw [List.map_cons, List.cons.injEq,
        toLower_eq_iff rfl rfl] at hMap
      exact ⟨u, by rw [hMap.1]⟩

/- The letters of a user and the slash behind them. -/
theorem exists_of_userSlash
    (hMatch :
      (seq (repeated isUserLetter)
        (source dot "/")).Matches u g) :
    g = [] ∧ ∃ user, u = user ++ ['/'] ∧
      ∀ c ∈ user, isUserLetter c = true := by
  cases hMatch with
  | seq hUser hSlash =>
      rcases matches_slash_iff.mp hSlash with ⟨rfl, rfl⟩
      cases hUser with
      | repeated _ hAll => exact ⟨rfl, _, rfl, hAll⟩

theorem separated_userSlash
    (b : Pattern Char) :
    Separated
      (seq (repeated isUserLetter) (source dot "/")) b := by
  intro u v r u' v' r' g h g' h' hU _ hU' _ hSame
  rcases exists_of_userSlash hU with ⟨_, x, rfl, hX⟩
  rcases exists_of_userSlash hU' with ⟨_, y, rfl, hY⟩
  rw [List.append_assoc, List.append_assoc] at hSame
  rw [(eq_of_stops hX hY rfl rfl hSame).1]

/- Digits end in front of a slash. -/
theorem length_le_of_slash
    {x v r y : List Char}
    (hDigits : ∀ c ∈ v, c.isDigit = true)
    (hSame : x ++ '/' :: r = v ++ y) :
    v.length ≤ x.length := by
  rcases List.append_eq_append_iff.mp hSame with
    ⟨w, rfl, hW⟩ | ⟨w, rfl, _⟩
  · cases w with
    | nil => simp
    | cons c w =>
        rw [List.cons_append, List.cons.injEq] at hW
        have hDigit := hDigits c (by simp)
        rw [← hW.1] at hDigit
        cases hDigit
  · simp

theorem longest_facebookPath
    (dot : Char → Bool) :
    (facebookPath dot).Longest := by
  have hId : (group (repeated Char.isDigit)).Longest :=
    longest_group (longest_repeated _)
  refine longest_seq (separated_repeated ?_)
    (longest_seq (separated_literal _ _)
      (longest_optional
        (longest_seq (separated_userSlash _) hId) hId ?_))
  · intro v h hMatch
    cases hMatch with
    | seq hVideos _ =>
        rcases exists_of_videos hVideos with ⟨w, rfl⟩
        exact ⟨'/', _, rfl, rfl⟩
  · intro u v r r' g h hU hV hSame
    cases hU with
    | seq hUser hDigits =>
        rcases exists_of_userSlash hUser with ⟨_, x, rfl, _⟩
        cases hV with
        | group hV =>
            cases hV with
            | repeated _ hAll =>
                have hLe :=
                  length_le_of_slash hAll
                    (by simpa using hSame)
                rw [List.length_append, List.length_append]
                omega

end Videos

end NewsCentral

------------------------------------------------------------
-- The Link That Is Found
------------------------------------------------------------

namespace NewsCentral

open Dart Text Pattern Videos

namespace VideoKind

variable {kind : VideoKind} {dot : Char → Bool}
variable {content : Option String} {m n : Match Char}
variable {u : List Char} {g h : List (Option (List Char))}

theorem longest_pattern
    (kind : VideoKind)
    (dot : Char → Bool) :
    (kind.pattern dot).Longest := by
  cases kind with
  | youtube => exact longest_link (longest_youtubePath dot)
  | facebook => exact longest_link (longest_facebookPath dot)
  | vimeo => exact longest_link (longest_vimeoPath dot)

/- Only the dots of the host make a difference. -/
theorem path_congr
    (kind : VideoKind)
    (dot other : Char → Bool) :
    kind.path dot = kind.path other := by
  have hPlain :
      ∀ text ∈ ["v", "embed", "video", "/", "/videos/"],
        source dot text = source other text := by
    intro text hMem
    refine source_congr other ?_
    revert text
    decide
  cases kind with
  | youtube =>
      simp [path, youtubePath, hPlain]
  | facebook =>
      simp [path, facebookPath, hPlain]
  | vimeo =>
      simp [path, vimeoPath, hPlain]

theorem isLower_host
    (kind : VideoKind) :
    IsLower kind.host := by
  cases kind <;> decide

/- A link is one with wildcards that has the host itself. -/
theorem matches_literal_iff :
    (kind.pattern literalDot).Matches u g ↔
      ∃ scheme authority rest,
        scheme.map Char.toLower = "https".toList ∧
          authority.map Char.toLower = kind.host.toList ∧
          (kind.path wildcard).Matches rest g ∧
          u =
            scheme ++ ':' :: '/' :: '/' ::
              (authority ++ '/' :: rest) := by
  rw [pattern, matches_link_iff,
    kind.path_congr literalDot wildcard]
  simp only [forall₂_literalDot_iff kind.isLower_host.toLower]

theorem matches_wildcard
    (hMatch : (kind.pattern literalDot).Matches u g) :
    (kind.pattern wildcard).Matches u g := by
  rw [pattern, matches_link_iff] at hMatch ⊢
  rcases hMatch with ⟨s, a, r, hScheme, hHost, hPath, hU⟩
  rw [kind.path_congr literalDot wildcard] at hPath
  exact
    ⟨s, a, r, hScheme,
      hHost.imp fun _ _ => reads_wildcard, hPath, hU⟩

theorem Linked.wildcard
    (hLinked : kind.Linked literalDot content) :
    kind.Linked wildcard content := by
  rcases hLinked with ⟨text, hText, before, m, hOccurs⟩
  exact
    ⟨text, hText, before, m,
      matches_wildcard hOccurs.accepted, hOccurs.place⟩

theorem Preferred.literal
    (hPreferred : kind.Preferred wildcard content) :
    kind.Preferred literalDot content :=
  fun other hRank hLinked =>
    hPreferred other hRank hLinked.wildcard

/- The first link is the first one with wildcards, too. -/
theorem First.literal
    (hFirst : kind.First wildcard content m)
    (hMatch : (kind.pattern literalDot).Matches m.text m.groups) :
    kind.First literalDot content m := by
  rcases hFirst with ⟨text, hText, before, hLeftmost⟩
  exact
    ⟨text, hText, before,
      hLeftmost.restrict (fun _ _ => matches_wildcard) hMatch⟩

theorem First.linked
    (hFirst : kind.First dot content m) :
    kind.Linked dot content := by
  rcases hFirst with ⟨text, hText, before, hLeftmost⟩
  exact ⟨text, hText, before, m, hLeftmost.occurs⟩

theorem First.accepted
    (hFirst : kind.First dot content m) :
    (kind.pattern dot).Matches m.text m.groups := by
  rcases hFirst with ⟨_, _, _, hLeftmost⟩
  exact hLeftmost.occurs.accepted

/- A path of Facebook: a user, `/videos/`, and an id. -/
theorem exists_of_facebookPath
    (hMatch : (facebookPath dot).Matches u g) :
    ∃ user videos rest id,
      u = user ++ '/' :: (videos ++ (rest ++ id)) ∧
        g = [some id] ∧
        (∀ c ∈ user, isUserLetter c = true) ∧
        videos.length = 7 ∧
        (∀ c ∈ id, c.isDigit = true) ∧
        (rest = [] ∨
          ∃ name, rest = name ++ ['/'] ∧
            ∀ c ∈ name, isUserLetter c = true) := by
  cases hMatch with
  | seq hUser hMatch =>
      cases hUser with
      | repeated _ hLetters =>
          cases hMatch with
          | seq hVideos hMatch =>
              have hLength := congrArg List.length
                ((matches_plain_iff (by decide)
                  (by decide)).mp hVideos).1
              rcases (matches_source_iff.mp hVideos).2 with rfl
              rcases exists_of_videos hVideos with ⟨v, rfl⟩
              rw [List.length_map, List.length_cons] at hLength
              cases hMatch with
              | seq hRest hId =>
                  cases hId with
                  | group hId =>
                      cases hId with
                      | repeated _ hDigits =>
                          cases hRest with
                          | taken hTaken =>
                              rcases exists_of_userSlash hTaken
                                with ⟨rfl, name, rfl, hName⟩
                              exact
                                ⟨_, v, _, _, by simp, rfl,
                                  hLetters, Nat.succ.inj hLength,
                                  hDigits,
                                  .inr ⟨name, rfl, hName⟩⟩
                          | skipped =>
                              exact
                                ⟨_, v, [], _, by simp, rfl,
                                  hLetters, Nat.succ.inj hLength,
                                  hDigits, .inl rfl⟩

/- Digits do not reach over a slash. -/
theorem digits_ne_slash
    {id name rest : List Char}
    (hDigits : ∀ c ∈ id, c.isDigit = true) :
    id ≠ name ++ '/' :: rest := by
  rintro rfl
  have hSlash := hDigits '/' (by simp)
  cases hSlash

/- A path of Facebook has one id. -/
theorem groups_of_facebookPath
    (hLeft : (facebookPath dot).Matches u g)
    (hRight : (facebookPath dot).Matches u h) :
    g = h := by
  rcases exists_of_facebookPath hLeft with
    ⟨user, v, rest, id, hU, rfl, hUser, hLength, hId, hRest⟩
  rcases exists_of_facebookPath hRight with
    ⟨user', v', rest', id', hU', rfl, hUser', hLength', hId',
      hRest'⟩
  have hSame := hU.symm.trans hU'
  have hBehind := (eq_of_stops hUser hUser' rfl rfl hSame).2.2
  have hIds :=
    (List.append_inj hBehind (hLength.trans hLength'.symm)).2
  rcases hRest with rfl | ⟨name, rfl, hName⟩ <;>
    rcases hRest' with rfl | ⟨name', rfl, hName'⟩
  · rw [List.nil_append, List.nil_append] at hIds
    rw [hIds]
  · rw [List.nil_append, List.append_assoc] at hIds
    exact absurd hIds (digits_ne_slash hId)
  · rw [List.nil_append, List.append_assoc] at hIds
    exact absurd hIds.symm (digits_ne_slash hId')
  · rw [List.append_assoc, List.append_assoc] at hIds
    have hEnds := (eq_of_stops hName hName' rfl rfl hIds).2.2
    rw [show id = id' from hEnds]

/- A link has one path. -/
theorem path_of_text
    (hLeft : (kind.pattern dot).Matches u g)
    (hRight : (kind.pattern dot).Matches u h) :
    ∃ rest,
      (kind.path dot).Matches rest g ∧
        (kind.path dot).Matches rest h := by
  rcases matches_link_iff.mp hLeft with
    ⟨s, a, rest, hS, hA, hPath, hU⟩
  rcases matches_link_iff.mp hRight with
    ⟨s', a', rest', hS', hA', hPath', hU'⟩
  have hSchemes := congrArg List.length (hS.trans hS'.symm)
  rw [List.length_map, List.length_map] at hSchemes
  have hHosts := hA.length_eq.symm.trans hA'.length_eq
  have hFronts :=
    (List.append_inj (hU.symm.trans hU') hSchemes).2
  simp only [List.cons.injEq, true_and] at hFronts
  have hRests := (List.append_inj hFronts hHosts).2
  rw [List.cons.injEq] at hRests
  rw [← hRests.2] at hPath'
  exact ⟨rest, hPath, hPath'⟩

/- A link is loaded in one way. -/
theorem url_eq_of_text
    (hLeft : (kind.pattern dot).Matches m.text m.groups)
    (hRight : (kind.pattern dot).Matches n.text n.groups)
    (hText : m.text = n.text) :
    kind.url m = kind.url n := by
  cases kind with
  | youtube => simp only [url, wholeMatch, hText]
  | vimeo => simp only [url, wholeMatch, hText]
  | facebook =>
      rw [← hText] at hRight
      rcases path_of_text hLeft hRight with
        ⟨rest, hPath, hPath'⟩
      simp only [url, facebookUrl,
        groups_of_facebookPath hPath hPath']

theorem url_of_first
    (hLeft : kind.First dot content m)
    (hRight : kind.First dot content n) :
    kind.url m = kind.url n := by
  refine url_eq_of_text hLeft.accepted hRight.accepted ?_
  rcases hLeft with ⟨text, hText, b, hM⟩
  rcases hRight with ⟨other, hOther, c, hN⟩
  rw [Option.mem_def.mp hText] at hOther
  cases hOther
  exact (hM.unique hN).2

/- Each link is loaded. -/
theorem exists_url
    (hMatch : (kind.pattern dot).Matches m.text m.groups) :
    ∃ url, kind.url m = some url := by
  cases kind with
  | youtube => exact ⟨_, rfl⟩
  | vimeo => exact ⟨_, rfl⟩
  | facebook =>
      rcases matches_link_iff.mp hMatch with
        ⟨_, _, _, _, _, hPath, _⟩
      rcases exists_of_facebookPath hPath with
        ⟨_, _, _, id, _, hGroups, _⟩
      simp only [url, facebookUrl, hGroups]
      exact ⟨_, rfl⟩

/- The link of a kind that the code looks for. -/
def get : VideoKind → Option String → Option String
  | .youtube => getYoutubeLink
  | .facebook => getFacebookLink
  | .vimeo => getVimeoLink

theorem get_eq
    (kind : VideoKind) :
    kind.get = firstLink (kind.pattern wildcard) kind.url := by
  cases kind <;> rfl

/- The link of a kind, or nothing. -/
theorem get_cases
    (kind : VideoKind)
    (content : Option String) :
    (kind.get content = none ∧
        ¬ kind.Linked wildcard content) ∨
      ∃ url m, kind.get content = some url ∧
        kind.First wildcard content m ∧
        kind.url m = some url := by
  rw [get_eq]
  cases content with
  | none =>
      refine .inl ⟨rfl, ?_⟩
      rintro ⟨text, hText, _⟩
      cases hText
  | some text =>
      simp only [firstLink]
      cases hFound :
          (kind.pattern wildcard).firstMatch text.toList with
      | none =>
          refine .inl ⟨rfl, ?_⟩
          rintro ⟨other, hOther, before, m, hOccurs⟩
          cases hOther
          exact
            firstMatch_eq_none_iff.mp hFound before m hOccurs
      | some m =>
          rcases leftmost_of_firstMatch
              (kind.longest_pattern wildcard) hFound with
            ⟨before, hLeftmost⟩
          rcases exists_url hLeftmost.occurs.accepted with
            ⟨url, hUrl⟩
          exact .inr
            ⟨url, m, hUrl, ⟨text, rfl, before, hLeftmost⟩,
              hUrl⟩

/- What `getVideoLink` returns. -/
theorem getVideoLink_cases
    (content : Option String) :
    (getVideoLink content = none ∧
        ∀ kind : VideoKind, ¬ kind.Linked wildcard content) ∨
      ∃ (kind : VideoKind) (url : String) (m : Match Char),
        getVideoLink content = some url ∧
          kind.Preferred wildcard content ∧
          kind.First wildcard content m ∧
          kind.url m = some url := by
  have hYoutube := get_cases .youtube content
  have hFacebook := get_cases .facebook content
  have hVimeo := get_cases .vimeo content
  simp only [get] at hYoutube hFacebook hVimeo
  unfold getVideoLink
  rcases hYoutube with ⟨hY, hNoY⟩ | ⟨url, m, hY, hFirst, hUrl⟩
  · rcases hFacebook with
      ⟨hF, hNoF⟩ | ⟨url, m, hF, hFirst, hUrl⟩
    · rcases hVimeo with
        ⟨hV, hNoV⟩ | ⟨url, m, hV, hFirst, hUrl⟩
      · refine .inl ⟨by simp [hY, hF, hV], ?_⟩
        intro kind
        cases kind with
        | youtube => exact hNoY
        | facebook => exact hNoF
        | vimeo => exact hNoV
      · refine .inr
          ⟨.vimeo, url, m, by simp [hY, hF, hV], ?_,
            hFirst, hUrl⟩
        intro other hRank
        cases other with
        | youtube => exact hNoY
        | facebook => exact hNoF
        | vimeo => exact absurd hRank (by decide)
    · refine .inr
        ⟨.facebook, url, m, by simp [hY, hF], ?_, hFirst,
          hUrl⟩
      intro other hRank
      cases other with
      | youtube => exact hNoY
      | facebook => exact absurd hRank (by decide)
      | vimeo => exact absurd hRank (by decide)
  · refine .inr
      ⟨.youtube, url, m, by simp [hY], ?_, hFirst, hUrl⟩
    intro other hRank
    exact absurd hRank (Nat.not_lt_zero _)

end VideoKind

end NewsCentral

------------------------------------------------------------
-- Trusted Hosts
------------------------------------------------------------

namespace NewsCentral

open Dart Text Videos

namespace VideoKind

variable {kind other : VideoKind} {content : Option String}
variable {m : Match Char}
variable {scheme authority rest : List Char}

theorem lower_eq_iff
    {text : List Char}
    {s : String} :
    Uri.lower text = s ↔
      text.map Char.toLower = s.toList := by
  rw [Uri.lower, ← String.toList_inj, String.toList_ofList]

/- What the URL of a link is parsed to. -/
theorem trustedHost_link_iff
    (hScheme : scheme.map Char.toLower = "https".toList) :
    TrustedHost
        (String.ofList
          (scheme ++ ':' :: '/' :: '/' ::
            (authority ++ '/' :: rest))) ↔
      ∃ other : VideoKind,
        (Uri.hostOf
              (authority.takeWhile fun c =>
                !Uri.endsAuthority c)).map Char.toLower =
          other.host.toList := by
  have hPlain : ∀ c ∈ scheme, c ≠ ':' := by
    rintro c hMem rfl
    have hLower := List.mem_map_of_mem (f := Char.toLower) hMem
    rw [hScheme] at hLower
    revert hLower
    decide
  unfold TrustedHost
  rw [String.toList_ofList, Uri.parse_authority hPlain]
  simp only [Option.mem_def, Option.some.injEq, exists_eq_left',
    lower_eq_iff, hScheme, true_and]

/- A host in any case is found as it is. -/
theorem hostOf_host
    (hHost : authority.map Char.toLower = kind.host.toList) :
    Uri.hostOf
        (authority.takeWhile fun c => !Uri.endsAuthority c) =
      authority := by
  have hApart :
      ['/', '?', '#', '@', ':'].all
        (fun c => c.toLower ∉ kind.host.toList) = true := by
    cases kind <;> decide
  rw [List.all_eq_true] at hApart
  have hNone :
      ∀ c ∈ authority,
        c ∉ ['/', '?', '#', '@', ':'] := by
    intro c hMem hSpecial
    have hLower := List.mem_map_of_mem (f := Char.toLower) hMem
    rw [hHost] at hLower
    exact of_decide_eq_true (hApart c hSpecial) hLower
  have hTake :
      (authority.takeWhile fun c => !Uri.endsAuthority c) =
        authority := by
    rw [List.takeWhile_eq_self_iff]
    intro c hMem
    have hC := hNone c hMem
    simp only [List.mem_cons, not_or] at hC
    simp [Uri.endsAuthority, hC]
  rw [hTake]
  refine Uri.hostOf_eq_self ?_
  intro c hMem
  have hC := hNone c hMem
  simp only [List.mem_cons, not_or] at hC
  exact ⟨hC.2.2.2.1, hC.2.2.2.2.1⟩

/-
  A part of what is read as a host is a host only if the
  dots are dots: the other hosts are too long, or have too
  many letters `w`.
-/
theorem host_of_infix
    {part : List Char}
    (hKind : kind ≠ .facebook)
    (hReads :
      List.Forall₂ (fun c x => reads wildcard c x = true)
        kind.host.toList authority)
    (hPart : part <:+: authority)
    (hHost : part.map Char.toLower = other.host.toList) :
    authority.map Char.toLower = kind.host.toList := by
  have hWhole := hReads.length_eq
  have hLength := congrArg List.length hHost
  rw [List.length_map] at hLength
  have hLe := hPart.length_le
  have hSame :
      kind = other →
        authority.map Char.toLower = kind.host.toList := by
    rintro rfl
    rw [← hPart.eq_of_length (hLength.trans hWhole), hHost]
  have hCount :=
    (hPart.sublist.map Char.toLower).count_le 'w'
  have hReadCount :=
    count_reads_le 'w' hReads kind.isLower_host.toLower
  rw [hHost] at hCount
  cases kind with
  | facebook => exact absurd rfl hKind
  | youtube =>
      change 15 = _ at hWhole
      cases other with
      | youtube => exact hSame rfl
      | facebook =>
          change _ = 16 at hLength
          omega
      | vimeo =>
          change _ = 16 at hLength
          omega
  | vimeo =>
      change _ ≤ 0 + 2 at hReadCount
      cases other with
      | youtube =>
          change 3 ≤ _ at hCount
          omega
      | facebook =>
          change 3 ≤ _ at hCount
          omega
      | vimeo => exact hSame rfl

/-
  What is loaded for a link of YouTube or Vimeo can be
  trusted exactly if its host has the dots.
-/
theorem trustedHost_iff
    (hKind : kind ≠ .facebook)
    (hMatch : (kind.pattern wildcard).Matches m.text m.groups) :
    TrustedHost (String.ofList m.text) ↔
      (kind.pattern literalDot).Matches m.text m.groups := by
  rw [matches_literal_iff]
  rcases matches_link_iff.mp hMatch with
    ⟨s, a, r, hS, hReads, hPath, hText⟩
  rw [hText]
  constructor
  · intro hTrusted
    rcases (trustedHost_link_iff hS).mp hTrusted with
      ⟨other, hOther⟩
    have hPart :=
      (Uri.hostOf_isInfix _).trans
        (List.takeWhile_prefix (l := a)
          fun c => !Uri.endsAuthority c).isInfix
    exact
      ⟨s, a, r, hS, host_of_infix hKind hReads hPart hOther,
        hPath, rfl⟩
  · rintro ⟨s', a', r', hS', hA', _, hText'⟩
    rw [hText', trustedHost_link_iff hS']
    exact ⟨kind, by rw [hostOf_host hA', hA']⟩

/- The embedded player of Facebook is at Facebook. -/
theorem trustedHost_facebookUrl
    (id : List Char) :
    TrustedHost
      ("https://www.facebook.com/video/embed?video_id=" ++
        String.ofList id) := by
  have hLink :=
    @trustedHost_link_iff "https".toList
      "www.facebook.com".toList
      ("video/embed?video_id=".toList ++ id) rfl
  have hText :
      "https://www.facebook.com/video/embed?video_id=" ++
          String.ofList id =
        String.ofList
          ("https".toList ++ ':' :: '/' :: '/' ::
            ("www.facebook.com".toList ++ '/' ::
              ("video/embed?video_id=".toList ++ id))) := by
    rw [← String.toList_inj]
    simp only [String.toList_append, String.toList_ofList]
    rfl
  rw [hText, hLink]
  exact ⟨.facebook, rfl⟩

end VideoKind

end NewsCentral

------------------------------------------------------------
-- The Video Of A Post
------------------------------------------------------------

namespace NewsCentral

open Dart Text Videos

namespace VideoKind

variable {kind other : VideoKind} {content : Option String}
variable {m n : Match Char} {url : String}

theorem rank_inj
    (hRank : kind.rank = other.rank) :
    kind = other := by
  revert hRank
  cases kind <;> cases other <;> decide

/- One kind is found, and preferred to the others. -/
theorem eq_of_preferred
    (hKind : kind.Preferred wildcard content)
    (hOther : other.Preferred wildcard content)
    (hFirst : kind.First wildcard content m)
    (hAlso : other.First wildcard content n) :
    kind = other := by
  apply rank_inj
  by_contra hRanks
  rcases Nat.lt_or_gt_of_ne hRanks with hLess | hMore
  · exact hOther kind hLess hFirst.linked
  · exact hKind other hMore hAlso.linked

theorem url_of_ne_facebook
    (hKind : kind ≠ .facebook)
    (hUrl : kind.url m = some url) :
    url = String.ofList m.text := by
  cases kind with
  | facebook => exact absurd rfl hKind
  | youtube => exact (Option.some.inj hUrl).symm
  | vimeo => exact (Option.some.inj hUrl).symm

theorem url_of_facebook
    (hUrl : facebook.url m = some url) :
    ∃ id,
      url =
        "https://www.facebook.com/video/embed?video_id=" ++
          String.ofList id := by
  simp only [VideoKind.url, facebookUrl] at hUrl
  split at hUrl
  next id _ _ => exact ⟨id, (Option.some.inj hUrl).symm⟩
  next => cases hUrl

/- What is loaded for a link on its host can be trusted. -/
theorem trustedHost_url
    (hMatch :
      (kind.pattern literalDot).Matches m.text m.groups)
    (hUrl : kind.url m = some url) :
    TrustedHost url := by
  by_cases hKind : kind = .facebook
  · subst hKind
    rcases url_of_facebook hUrl with ⟨id, rfl⟩
    exact trustedHost_facebookUrl id
  · rw [url_of_ne_facebook hKind hUrl]
    exact
      (trustedHost_iff hKind (matches_wildcard hMatch)).mpr
        hMatch

/- A link of Vimeo is not the player of Facebook. -/
theorem facebookUrl_ne_vimeo
    (hMatch :
      (vimeo.pattern literalDot).Matches n.text n.groups)
    (hUrl : facebook.url m = some url) :
    vimeo.url n ≠ some url := by
  intro hVimeo
  rcases url_of_facebook hUrl with ⟨id, rfl⟩
  have hText := url_of_ne_facebook (by decide) hVimeo
  rcases matches_literal_iff.mp hMatch with
    ⟨s, a, r, hS, hA, _, hN⟩
  rw [hN, ← String.toList_inj] at hText
  simp only [String.toList_append, String.toList_ofList]
    at hText
  have hLower := congrArg (List.map Char.toLower) hText
  rw [List.map_append, List.map_append, hS, List.map_cons,
    List.map_cons, List.map_cons, List.map_append, hA]
    at hLower
  have hNinth := congrArg (fun l => l[8]?) hLower
  cases hNinth

end VideoKind

namespace Videos

variable {content : Option String} {kind : VideoKind}
variable {m : Match Char} {url : String}

/- The first link on its host is loaded. -/
theorem trusted_of_first
    (hSome : getVideoLink content = some url)
    (hPreferred : kind.Preferred wildcard content)
    (hFirst : kind.First literalDot content m)
    (hUrl : kind.url m = some url) :
    Trusted content where
  host := by
    intro other hOther
    rw [hSome] at hOther
    cases hOther
    exact VideoKind.trustedHost_url hFirst.accepted hUrl
  null := by
    rw [hSome]
    constructor
    · intro hNone
      cases hNone
    · intro hNowhere
      exact absurd hFirst.linked (hNowhere kind)
  chosen := by
    intro other hOther
    rw [hSome] at hOther
    cases hOther
    exact ⟨kind, m, hPreferred.literal, hFirst, hUrl⟩

/-
  The video can be trusted exactly if the text that is
  picked is on the host itself.
-/
theorem trusted_iff
    (content : Option String) :
    Trusted content ↔ PicksLiteralHost content := by
  rcases VideoKind.getVideoLink_cases content with
    ⟨hNone, hNowhere⟩ |
      ⟨kind, url, m, hSome, hPreferred, hFirst, hUrl⟩
  · constructor
    · intro _ kind m _ hFirst
      exact absurd hFirst.linked (hNowhere kind)
    · intro _
      refine ⟨?_, ⟨fun _ kind hLinked => ?_, fun _ => hNone⟩, ?_⟩
      · intro url hUrl
        rw [hNone] at hUrl
        cases hUrl
      · exact hNowhere kind hLinked.wildcard
      · intro url hUrl
        rw [hNone] at hUrl
        cases hUrl
  · constructor
    · intro hTrusted other n hOther hAlso
      rcases VideoKind.eq_of_preferred hPreferred hOther hFirst
        hAlso with rfl
      have hSame := VideoKind.url_of_first hAlso hFirst
      rw [hUrl] at hSame
      by_cases hKind : kind = .facebook
      · subst hKind
        rcases hTrusted.chosen url hSome with
          ⟨chosen, k, _, hChosen, hLoaded⟩
        refine .inr ⟨rfl, ?_⟩
        cases chosen with
        | youtube =>
            exact absurd hChosen.linked.wildcard
              (hPreferred .youtube (by decide))
        | facebook => exact ⟨k, hChosen, hLoaded.trans hSame.symm⟩
        | vimeo =>
            exact absurd hLoaded
              (VideoKind.facebookUrl_ne_vimeo hChosen.accepted
                hUrl)
      · left
        rw [← VideoKind.trustedHost_iff hKind hAlso.accepted,
          ← VideoKind.url_of_ne_facebook hKind hSame]
        exact hTrusted.host url hSome
    · intro hPicks
      rcases hPicks kind m hPreferred hFirst with
        hLiteral | ⟨rfl, n, hOther, hSame⟩
      · exact
          trusted_of_first hSome hPreferred
            (hFirst.literal hLiteral) hUrl
      · exact
          trusted_of_first hSome hPreferred hOther
            (hSame.trans hUrl)

/- A host of someone else, one character away. -/
theorem lookalike_is_loaded :
    getVideoLink (some "<p>https://wwwxyoutube.com/embed/1</p>") =
        some "https://wwwxyoutube.com/embed/1" ∧
      ¬ Trusted
        (some "<p>https://wwwxyoutube.com/embed/1</p>") := by
  have hLoaded :
      getVideoLink
          (some "<p>https://wwwxyoutube.com/embed/1</p>") =
        some "https://wwwxyoutube.com/embed/1" := by
    decide +kernel
  refine ⟨hLoaded, fun hTrusted => ?_⟩
  rcases hTrusted.host _ hLoaded with
    ⟨uri, hUri, _, kind, hHost⟩
  have hParsed :
      Uri.parse "https://wwwxyoutube.com/embed/1".toList =
        some
          { scheme := "https", host := "wwwxyoutube.com" } := by
    decide +kernel
  rw [Option.mem_def, hParsed] at hUri
  cases hUri
  revert hHost
  cases kind <;> decide

end Videos

end NewsCentral
