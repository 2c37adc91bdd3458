/-
Which request a stream URL is parsed to, and which URLs share a stream.

A URL is written from a host and a source: a file with its flag, or a device id.
`parseUrl` does not look at the path but at the first place where a marker occurs, so
it reads the source back exactly when the host does not end with a word that the slash
behind it completes to a marker, and a device id has no file marker in it.
-/

import Mathlib.Data.String.Basic
import Ffvms.FirstOccurrence
import Ffvms.Concrete.VideoRequest

namespace Ffvms.Concrete.VideoRequest

/-- `operator<`. -/
instance : LT VideoRequest where
  lt first second := first.cmpStr < second.cmpStr

instance (first second : VideoRequest) : Decidable (first < second) :=
  inferInstanceAs (Decidable (first.cmpStr < second.cmpStr))

/-- `std::hash<VideoRequest>`, over the hash of strings.  It builds the text again. -/
def hash {Hash : Type} (hashText : String → Hash) (request : VideoRequest) : Hash :=
  let requestStr :=
    if request.useFile then "file://" ++ request.filename
    else if request.useGb then "gb://" ++ request.gbid
    else ""
  hashText requestStr

def SameKey (first second : VideoRequest) : Prop := ¬first < second ∧ ¬second < first

theorem sameKey_iff (first second : VideoRequest) :
    SameKey first second ↔ first.cmpStr = second.cmpStr := by
  constructor
  · intro key
    exact le_antisymm (not_lt.mp key.2) (not_lt.mp key.1)
  · intro same
    constructor
    · exact not_lt.mpr same.ge
    · exact not_lt.mpr same.le

theorem hash_eq_cmpStr {Hash : Type} (hashText : String → Hash) (request : VideoRequest) :
    hash hashText request = hashText request.cmpStr := rfl

inductive Source where
  | file (name : String) (repeatedly : Bool)
  | gb (id : String)
  deriving DecidableEq, Repr

namespace Source

def path : Source → String
  | .file name repeatedly =>
      "file/" ++ name ++ "?repeatedly=" ++ (if repeatedly then "true" else "false")
  | .gb id => "gb/" ++ id

def url (host : String) (source : Source) : String :=
  "rtsp://" ++ host ++ "/" ++ source.path

def request : Source → VideoRequest
  | .file name repeatedly =>
      { unset with useFile := true, filename := name, repeatedly := repeatedly }
  | .gb id => { unset with useGb := true, gbid := id }

def Same : Source → Source → Prop
  | .file name _, .file other _ => name = other
  | .gb id, .gb other => id = other
  | _, _ => False

def Named : Source → Prop
  | .file name _ => ¬repeatedlyFlag.toList <:+: name.toList
  | .gb _ => True

instance (source : Source) : Decidable source.Named := by
  unfold Named
  split <;> infer_instance

/-- No marker is completed before the path, and none of another kind is behind it. -/
def Unambiguous (host : String) : Source → Prop
  | .file _ _ => ¬"file".toList <:+ host.toList
  | .gb id =>
      ¬"file".toList <:+ host.toList ∧ ¬"gb".toList <:+ host.toList ∧
        ¬filePrefix.toList <:+: id.toList

instance (host : String) (source : Source) : Decidable (source.Unambiguous host) := by
  unfold Unambiguous
  split <;> infer_instance

end Source

section Parsing

theorem findText_eq_firstOccurrence (pattern text : List Char) :
    findText pattern text = firstOccurrence pattern text := by
  induction text with
  | nil => rfl
  | cons head rest ih =>
      unfold findText firstOccurrence
      rw [ih]
      by_cases here : pattern <+: head :: rest
      · rw [if_pos here, if_pos (List.isPrefixOf_iff_prefix.mpr here)]
      · rw [if_neg here, if_neg (fun found => here (List.isPrefixOf_iff_prefix.mp found))]

def parseFile (filename : String) : VideoRequest :=
  match find filename repeatedlyFlag with
  | some flag =>
      { unset with
        useFile := true
        repeatedly := substr filename (flag + repeatedlyFlag.length) == "true"
        filename := substrTo filename flag }
  | none => { unset with useFile := true, filename := filename }

theorem parseFile_useFile (filename : String) : (parseFile filename).useFile = true := by
  unfold parseFile
  split <;> rfl

theorem substr_of_afterFirst {url pattern : String} {text : List Char}
    (behind : afterFirst pattern.toList url.toList = some text) :
    ∃ found, find url pattern = some found ∧
      substr url (found + pattern.length) = String.ofList text := by
  obtain ⟨found, position, drop⟩ := Option.map_eq_some_iff.mp behind
  refine ⟨found, ?_, ?_⟩
  · exact (findText_eq_firstOccurrence _ _).trans position
  · rw [substr, ← drop, String.length_toList]

theorem find_eq_none_of_afterFirst {url pattern : String}
    (absent : afterFirst pattern.toList url.toList = none) : find url pattern = none := by
  rw [find, findText_eq_firstOccurrence]
  exact Option.map_eq_none_iff.mp absent

theorem parseUrl_of_file {url : String} {text : List Char}
    (behind : afterFirst filePrefix.toList url.toList = some text) :
    parseUrl url = parseFile (String.ofList text) := by
  obtain ⟨found, position, rest⟩ := substr_of_afterFirst behind
  simp only [parseUrl, position, rest]
  rfl

theorem parseUrl_of_gb {url : String} {text : List Char}
    (noFile : afterFirst filePrefix.toList url.toList = none)
    (behind : afterFirst gbPrefix.toList url.toList = some text) :
    parseUrl url = (Source.gb (String.ofList text)).request := by
  obtain ⟨found, position, rest⟩ := substr_of_afterFirst behind
  simp only [parseUrl, find_eq_none_of_afterFirst noFile, position, rest]
  rfl

theorem parseFile_flagged (name : List Char) (repeatedly : Bool)
    (noFlag : ¬repeatedlyFlag.toList <:+: name) :
    parseFile (String.ofList (name ++ (repeatedlyFlag.toList ++
      (if repeatedly then "true" else "false").toList))) =
      (Source.file (String.ofList name) repeatedly).request := by
  have position : find (String.ofList (name ++ (repeatedlyFlag.toList ++
      (if repeatedly then "true" else "false").toList))) repeatedlyFlag = some name.length := by
    rw [find, findText_eq_firstOccurrence, String.toList_ofList]
    exact firstOccurrence_marker (by decide) noFlag
  have before : (name ++ (repeatedlyFlag.toList ++
      (if repeatedly then "true" else "false").toList)).take name.length = name :=
    List.take_left
  have behind : (name ++ (repeatedlyFlag.toList ++
      (if repeatedly then "true" else "false").toList)).drop
        (name.length + repeatedlyFlag.length) =
      (if repeatedly then "true" else "false").toList := by
    rw [← List.drop_drop, List.drop_left, ← String.length_toList, List.drop_left]
  simp only [parseFile, position, substr, substrTo, String.toList_ofList, before, behind,
    String.ofList_toList]
  cases repeatedly <;> rfl

end Parsing

section Urls

variable (host : String)

theorem filePrefix_toList : filePrefix.toList = "file".toList ++ ['/'] := by decide

theorem gbPrefix_toList : gbPrefix.toList = "gb".toList ++ ['/'] := by decide

theorem url_toList (source : Source) :
    (source.url host).toList =
      "rtsp:".toList ++ '/' :: ([] ++ '/' :: (host.toList ++ '/' :: source.path.toList)) := by
  simp [Source.url]

/-- The scheme holds no marker, so the host is the first place where one may end. -/
theorem afterFirst_url (word : List Char) (noSlash : '/' ∉ host.toList) (inWord : '/' ∉ word)
    (notEmpty : word ≠ []) (notScheme : ¬word <:+ "rtsp:".toList) (source : Source) :
    afterFirst (word ++ ['/']) (source.url host).toList =
      if word <:+ host.toList then some source.path.toList
      else afterFirst (word ++ ['/']) source.path.toList := by
  rw [url_toList, afterFirst_segment inWord (by decide), if_neg notScheme,
    afterFirst_segment inWord List.not_mem_nil,
    if_neg (fun ends => notEmpty (List.suffix_nil.mp ends)),
    afterFirst_segment inWord noSlash]

theorem afterFirst_file_url (noSlash : '/' ∉ host.toList) (source : Source) :
    afterFirst filePrefix.toList (source.url host).toList =
      if "file".toList <:+ host.toList then some source.path.toList
      else afterFirst filePrefix.toList source.path.toList := by
  rw [filePrefix_toList]
  exact afterFirst_url host "file".toList noSlash (by decide) (by decide) (by decide) source

theorem afterFirst_gb_url (noSlash : '/' ∉ host.toList) (source : Source) :
    afterFirst gbPrefix.toList (source.url host).toList =
      if "gb".toList <:+ host.toList then some source.path.toList
      else afterFirst gbPrefix.toList source.path.toList := by
  rw [gbPrefix_toList]
  exact afterFirst_url host "gb".toList noSlash (by decide) (by decide) (by decide) source

theorem file_path_toList (name : String) (repeatedly : Bool) :
    (Source.file name repeatedly).path.toList =
      "file".toList ++ '/' :: (name.toList ++ (repeatedlyFlag.toList ++
        (if repeatedly then "true" else "false").toList)) := by
  simp [Source.path, repeatedlyFlag]

theorem gb_path_toList (id : String) :
    (Source.gb id).path.toList = "gb".toList ++ '/' :: id.toList := by
  simp [Source.path]

theorem afterFirst_file_path (name : String) (repeatedly : Bool) :
    afterFirst filePrefix.toList (Source.file name repeatedly).path.toList =
      some (name.toList ++ (repeatedlyFlag.toList ++
        (if repeatedly then "true" else "false").toList)) := by
  rw [file_path_toList, filePrefix_toList, afterFirst_segment (by decide) (by decide),
    if_pos (List.suffix_refl _)]

theorem afterFirst_gb_path (id : String) :
    afterFirst filePrefix.toList (Source.gb id).path.toList =
        afterFirst filePrefix.toList id.toList ∧
      afterFirst gbPrefix.toList (Source.gb id).path.toList = some id.toList := by
  rw [gb_path_toList]
  constructor
  · rw [filePrefix_toList, afterFirst_segment (by decide) (by decide), if_neg (by decide)]
  · rw [gbPrefix_toList, afterFirst_segment (by decide) (by decide),
      if_pos (List.suffix_refl _)]

/-- The flag begins with a sign that the file marker does not have. -/
theorem noFlag_marked {name : String} (noFlag : ¬repeatedlyFlag.toList <:+: name.toList) :
    ¬repeatedlyFlag.toList <:+: ("file/" ++ name).toList := by
  rw [String.toList_append]
  simp [repeatedlyFlag, List.infix_cons_iff] at noFlag ⊢
  exact noFlag

/-- With a host that ends with the file word the marker of the path stays in the name. -/
theorem parseUrl_file_url (noSlash : '/' ∉ host.toList) {name : String}
    (noFlag : ¬repeatedlyFlag.toList <:+: name.toList) (repeatedly : Bool) :
    parseUrl ((Source.file name repeatedly).url host) =
      (Source.file (if "file".toList <:+ host.toList then "file/" ++ name else name)
        repeatedly).request := by
  have found := afterFirst_file_url host noSlash (.file name repeatedly)
  by_cases ends : "file".toList <:+ host.toList
  · have marked : (Source.file name repeatedly).path.toList =
        ("file/" ++ name).toList ++ (repeatedlyFlag.toList ++
          (if repeatedly then "true" else "false").toList) := by
      simp [Source.path, repeatedlyFlag]
    rw [if_pos ends, marked] at found
    rw [if_pos ends, parseUrl_of_file found, parseFile_flagged _ _ (noFlag_marked noFlag),
      String.ofList_toList]
  · rw [if_neg ends, afterFirst_file_path] at found
    rw [if_neg ends, parseUrl_of_file found, parseFile_flagged _ _ noFlag, String.ofList_toList]

theorem parseUrl_gb_url (noSlash : '/' ∉ host.toList) {id : String}
    (noFileHost : ¬"file".toList <:+ host.toList)
    (noFileId : ¬filePrefix.toList <:+: id.toList) :
    parseUrl ((Source.gb id).url host) =
      (Source.gb (if "gb".toList <:+ host.toList then "gb/" ++ id else id)).request := by
  have noFile := afterFirst_file_url host noSlash (.gb id)
  rw [if_neg noFileHost, (afterFirst_gb_path id).1, afterFirst_eq_none_iff.mpr noFileId] at noFile
  have found := afterFirst_gb_url host noSlash (.gb id)
  by_cases ends : "gb".toList <:+ host.toList
  · rw [if_pos ends] at found
    rw [if_pos ends, parseUrl_of_gb noFile found, String.ofList_toList]
    rfl
  · rw [if_neg ends, (afterFirst_gb_path id).2] at found
    rw [if_neg ends, parseUrl_of_gb noFile found, String.ofList_toList]

/-- A file marker anywhere in front of or inside the id makes a file of the device. -/
theorem parseUrl_gb_url_useFile (noSlash : '/' ∉ host.toList) {id : String}
    (marked : "file".toList <:+ host.toList ∨ filePrefix.toList <:+: id.toList) :
    (parseUrl ((Source.gb id).url host)).useFile = true := by
  have found := afterFirst_file_url host noSlash (.gb id)
  obtain ⟨text, behind⟩ :
      ∃ text, afterFirst filePrefix.toList ((Source.gb id).url host).toList = some text := by
    by_cases ends : "file".toList <:+ host.toList
    · exact ⟨_, found.trans (if_pos ends)⟩
    · rw [if_neg ends, (afterFirst_gb_path id).1] at found
      rw [found]
      apply Option.ne_none_iff_exists'.mp
      intro absent
      exact afterFirst_eq_none_iff.mp absent (marked.resolve_left ends)
  rw [parseUrl_of_file behind]
  exact parseFile_useFile _

theorem append_left_ne {front text : String} (notEmpty : front.length ≠ 0) :
    front ++ text ≠ text := by
  intro same
  have lengths := congrArg String.length same
  rw [String.length_append] at lengths
  omega

/-- The source is read back exactly when it is written without ambiguity. -/
theorem parseUrl_url_iff (noSlash : '/' ∉ host.toList) {source : Source}
    (named : source.Named) :
    parseUrl (source.url host) = source.request ↔ source.Unambiguous host := by
  cases source with
  | file name repeatedly =>
      rw [parseUrl_file_url host noSlash named, Source.Unambiguous]
      by_cases ends : "file".toList <:+ host.toList
      · rw [if_pos ends, iff_false_right (not_not_intro ends)]
        intro same
        exact append_left_ne (by decide) (congrArg filename same)
      · rw [if_neg ends]
        exact iff_of_true rfl ends
  | gb id =>
      rw [Source.Unambiguous]
      by_cases marked : "file".toList <:+ host.toList ∨ filePrefix.toList <:+: id.toList
      · apply iff_of_false
        · intro same
          have isFile := parseUrl_gb_url_useFile host noSlash marked
          rw [same] at isFile
          exact Bool.noConfusion isFile
        · exact fun clear => marked.elim clear.1 clear.2.2
      · obtain ⟨noFileHost, noFileId⟩ := not_or.mp marked
        rw [parseUrl_gb_url host noSlash noFileHost noFileId]
        by_cases ends : "gb".toList <:+ host.toList
        · rw [if_pos ends]
          apply iff_of_false
          · intro same
            exact append_left_ne (by decide) (congrArg gbid same)
          · exact fun clear => clear.2.1 ends
        · rw [if_neg ends]
          exact iff_of_true rfl ⟨noFileHost, ends, noFileId⟩

end Urls

section Keys

theorem cmpStr_request_iff (source other : Source) :
    source.request.cmpStr = other.request.cmpStr ↔ source.Same other := by
  cases source with
  | file name repeatedly =>
      cases other with
      | file second _ => exact String.append_right_inj "file://"
      | gb id =>
          apply iff_of_false
          · exact fun same => Bool.noConfusion (useFile_congr same)
          · exact not_false
  | gb id =>
      cases other with
      | file name _ =>
          apply iff_of_false
          · exact fun same => Bool.noConfusion (useFile_congr same)
          · exact not_false
      | gb second => exact String.append_right_inj "gb://"

/-- URLs without ambiguity are parsed to their sources, and no others are; two of them
share a key, and then a hash, exactly when they name the same source. -/
theorem urls_routed (host otherHost : String) (noSlash : '/' ∉ host.toList)
    (noSlash' : '/' ∉ otherHost.toList) (source other : Source) (named : source.Named)
    (named' : other.Named) :
    (parseUrl (source.url host) = source.request ↔ source.Unambiguous host) ∧
      (source.Unambiguous host → other.Unambiguous otherHost →
        (SameKey (parseUrl (source.url host)) (parseUrl (other.url otherHost)) ↔
            source.Same other) ∧
          (source.Same other → ∀ (Hash : Type) (hashText : String → Hash),
            hash hashText (parseUrl (source.url host)) =
              hash hashText (parseUrl (other.url otherHost)))) := by
  constructor
  · exact parseUrl_url_iff host noSlash named
  · intro clear clear'
    rw [(parseUrl_url_iff host noSlash named).mpr clear,
      (parseUrl_url_iff otherHost noSlash' named').mpr clear', sameKey_iff, cmpStr_request_iff]
    refine ⟨Iff.rfl, ?_⟩
    intro same Hash hashText
    rw [hash_eq_cmpStr, hash_eq_cmpStr, (cmpStr_request_iff source other).mpr same]

theorem two_hosts_one_stream :
    SameKey (parseUrl "rtsp://a:554/file/x.mp4?repeatedly=true")
        (parseUrl "rtsp://b/file/x.mp4?repeatedly=false") ∧
      ¬SameKey (parseUrl "rtsp://a:554/file/x.mp4?repeatedly=true")
        (parseUrl "rtsp://b/gb/x.mp4") := by
  have shared := (urls_routed "a:554" "b" (by decide) (by decide) (.file "x.mp4" true)
    (.file "x.mp4" false) (by decide) (by decide)).2 (by decide) (by decide)
  have other := (urls_routed "a:554" "b" (by decide) (by decide) (.file "x.mp4" true)
    (.gb "x.mp4") (by decide) trivial).2 (by decide) (by decide)
  exact ⟨shared.1.mpr rfl, fun key => other.1.mp key⟩

/-- A host that ends with the file word changes the name, and a device whose id has the file
marker in it shares the stream of a file. -/
theorem marker_before_path_misrouted :
    '/' ∉ "myfile".toList ∧ (Source.file "x" true).Named ∧
      parseUrl ((Source.file "x" true).url "myfile") ≠ (Source.file "x" true).request ∧
      parseUrl ((Source.gb "1").url "msgb") ≠ (Source.gb "1").request ∧
      SameKey (parseUrl ((Source.gb "file/a").url "host"))
        (parseUrl ((Source.file "a" false).url "host")) := by
  refine ⟨by decide, by decide, ?_, ?_, ?_⟩
  · intro same
    have clear := (parseUrl_url_iff "myfile" (by decide) (by decide)).mp same
    exact absurd clear (by decide)
  · intro same
    have clear := (parseUrl_url_iff "msgb" (by decide) (by decide)).mp same
    exact absurd clear (by decide)
  · rw [sameKey_iff]
    decide

end Keys

end Ffvms.Concrete.VideoRequest
