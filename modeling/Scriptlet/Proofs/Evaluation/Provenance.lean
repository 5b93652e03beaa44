/-
# Where errors come from

A failure begins at one call: at a name that is not bound to a function, at a function of the
library or of the host that fails by itself, at an `include` that has no path, or whose file
cannot be read, scanned or parsed.  From there the error is handed outwards:

    part, body, callback    as it is
    call                    an error as it is; a mishap becomes the error of the call
    file                    behind one layer, which names the file and the place of what it
                            wraps and stands at the `include` itself

An origin of a fault and the trail that leads to it are known of every failure; along the
trail, `beginsAtCall_of_trail` finds the call.  `error_provenance` says what surfaces: the
error of that call behind one layer for each `include` on the way, the outermost last
(`Layered`).

## The host

The host is a party to this in two ways.

* It must let faults through (`Host.LetsThrough`).  What it catches it may replace by
  anything, and then what surfaces says nothing of where it came from.
* It may state an error itself, of any kind and at any place or none (`StatedAt`).  Such an
  error begins at the call of the function that states it, and is handed outwards like any
  other.  Where it has no place, the `include` around it names none either
  (`stated_error_names_no_place`).

## What comes of no call

Some failures do not begin at a call: those for want of depth, for want of words for a
message of the host, and those of a file with an overlong literal, which leaves the scanner
as a mishap and so passes through its `include`.  They are left out by what they come of
(`RunsOut`, `Speechless`), and mostly show in what surfaces (`Fault.Choked`).
Interruptions, which nothing holds up, are left out by what surfaces.
-/
import Scriptlet.Proofs.Evaluation.Trails
import Scriptlet.Proofs.Runner.Reports

namespace Scriptlet

open Evaluator

/-! ## Layers -/

/-- The files that are entered along links, with the places of their `include`s; the
outermost comes first. -/
def Link.files : List Link → List (String × Location)
  | [] => []
  | .file path location :: links => (path, location) :: files links
  | _ :: links => files links

/-- The error `top` is `d` behind one layer for each file; the outermost comes first. -/
inductive Layered : List (String × Location) → Diagnostic → Diagnostic → Prop
  | bare {d : Diagnostic} : Layered [] d d
  | layer {path : String} {location : Location} {files : List (String × Location)}
      {d e top : Diagnostic} (rest : Layered files d e) (hstage : top.stage = .evaluation)
      (hlocation : top.location = some location)
      (hplaced : ∀ place, e.location = some place →
        top.message = "Failed to include '" ++ path ++ "': " ++ e.stage.label ++ " at " ++
          place.source.name ++ ":" ++ toString place.line ++ ":" ++ toString place.column ++
          ": " ++ e.message)
      (hunplaced : e.location = none →
        top.message = "Failed to include '" ++ path ++ "': " ++ e.message) :
      Layered ((path, location) :: files) d top

section Layers

theorem Diagnostic.message_inFile (path : String) (location : Location) (e : Diagnostic) :
    (e.inFile path location).message =
      "Failed to include '" ++ path ++ "': " ++ includeDetail e := rfl

/-- The layer of an `include` is worded as it has to be. -/
theorem Layered.inFile {path : String} {location : Location} {files : List (String × Location)}
    {d e : Diagnostic} (rest : Layered files d e) :
    Layered ((path, location) :: files) d (e.inFile path location) := by
  apply Layered.layer rest
  · rfl
  · rfl
  · intro place hplace
    rw [Diagnostic.message_inFile, includeDetail, hplace]
    simp only [String.append_assoc]
  · intro hnone
    rw [Diagnostic.message_inFile, includeDetail, hnone]

/-- An error that is followed inwards to another is that one behind the layers of the files
on the way. -/
theorem Trail.layered {host : Host} {a c : Activity} {fault : Fault} {links : List Link}
    {d : Diagnostic}
    (h : Trail host a fault links c (.script d)) :
    ∃ top, fault = .script top ∧ Layered (Link.files links) d top := by
  generalize hfirst : Fault.script d = first at h
  induction h with
  | here h => exact ⟨d, hfirst.symm, .bare⟩
  | @inward a inner last link links e first h hinside rest ih =>
      obtain ⟨top, rfl, htop⟩ := ih hfirst
      cases link with
      | file path location => exact ⟨_, rfl, htop.inFile⟩
      | _ => exact ⟨top, rfl, htop⟩

end Layers

/-! ## Failures that show -/

/-- The fault comes of a want of depth. -/
def RunsOut (host : Host) : Activity → Fault → Prop :=
  ComesOf host fun _ first => first = .exhausted

/-- The fault comes of an overlong file, or of a message of the host for which there are no
words. -/
def Speechless (host : Host) : Activity → Fault → Prop := ComesOf host (Unspoken host)

/-- A want of depth, or of words, or the end of a message that tells of one. -/
def Fault.Choked : Fault → Prop
  | .script d => "aximum recursion depth exceeded".toList <:+ d.message.toList ∨
      Mishap.digitAdvice.toList <:+ d.message.toList
  | .raised mishap => Mishap.digitAdvice.toList <:+ mishap.reason.toList
  | .exhausted | .wordlessFailure _ | .wordlessError _ => True
  | .interrupted _ => False

theorem suffix_toList_append (front back : String) : back.toList <:+ (front ++ back).toList := by
  rw [String.toList_append]
  exact List.suffix_append _ _

theorem Obstacle.choked_fault (why : Obstacle) : why.fault.Choked := by
  cases why with
  | integerTooLong => exact suffix_toList_append _ _
  | tooDeep => trivial

theorem getLast?_of_suffix {α : Type} {back all : List α} {x : α} (h : back <:+ all)
    (hlast : back.getLast? = some x) : all.getLast? = some x := by
  obtain ⟨front, rfl⟩ := h
  rw [List.getLast?_append, hlast, Option.some_or]

/-- The last character of a message already tells where there is no such end. -/
theorem not_choked {d : Diagnostic} {c : Char} (hlast : d.message.toList.getLast? = some c)
    (hd : c ≠ 'd') (ht : c ≠ 't') : ¬ (Fault.script d).Choked := by
  rintro (hend | hend)
  · have hexceeded := getLast?_of_suffix hend (x := 'd') rfl
    exact hd (Option.some.inj (hlast.symm.trans hexceeded))
  · have hlimit := getLast?_of_suffix hend (x := 't') rfl
    exact ht (Option.some.inj (hlast.symm.trans hlimit))

/-- The words of an error are the last ones of what an `include` says of it. -/
theorem message_suffix_inFile (path : String) (location : Location) (d : Diagnostic) :
    d.message.toList <:+ (d.inFile path location).message.toList := by
  have hdetail : d.message.toList <:+ (includeDetail d).toList := by
    unfold includeDetail
    split
    · exact List.suffix_refl _
    · exact suffix_toList_append _ _
  exact hdetail.trans (suffix_toList_append _ _)

/-- Handed on, a want of depth or of words still shows. -/
theorem Fault.Choked.hand {fault : Fault} (h : fault.Choked) (link : Link) :
    (link.hand fault).Choked := by
  cases link with
  | part => exact h
  | body => exact h
  | callback => exact h
  | call callee location =>
      cases fault with
      | script d => exact h
      | raised mishap => exact .inr (List.IsSuffix.trans h (suffix_toList_append _ _))
      | exhausted => exact .inl (suffix_toList_append "M" _)
      | wordlessFailure why => exact why.choked_fault
      | wordlessError why => exact h
      | interrupted kind => exact h
  | file path location =>
      cases fault with
      | script d =>
          have hwords := message_suffix_inFile path location d
          exact h.imp (·.trans hwords) (·.trans hwords)
      | raised mishap => exact h
      | exhausted =>
          exact .inl ((suffix_toList_append "m" _).trans (suffix_toList_append _ _))
      | wordlessFailure why => exact h
      | wordlessError why => exact why.choked_fault
      | interrupted kind => exact h

theorem ComesOf.choked {host : Host} {P : Activity → Fault → Prop} {a : Activity} {fault : Fault}
    (hP : ∀ last first, P last first → first.Choked) (h : ComesOf host P a fault) :
    fault.Choked := by
  obtain ⟨links, last, first, htrail, hfirst⟩ := h
  induction htrail with
  | here h => exact hP _ _ hfirst
  | inward h hinside rest ih => exact (ih hfirst).hand _

theorem RunsOut.choked {host : Host} {a : Activity} {fault : Fault} (h : RunsOut host a fault) :
    fault.Choked := by
  refine ComesOf.choked ?_ h
  rintro last first rfl
  trivial

theorem Unspoken.choked {host : Host} {a : Activity} {fault : Fault} (h : Unspoken host a fault) :
    fault.Choked := by
  cases h with
  | overlong h => exact suffix_toList_append _ _
  | wordless h =>
      cases fault with
      | wordlessFailure why => trivial
      | wordlessError why => trivial
      | _ => exact absurd h id

theorem Speechless.choked {host : Host} {a : Activity} {fault : Fault}
    (h : Speechless host a fault) : fault.Choked :=
  ComesOf.choked (fun _ _ => Unspoken.choked) h

/-! ## Where failures begin -/

/-- What is applied is no closure and fails by itself, or as a function that it calls back
and of which this is true again: no call of a script is between. -/
inductive HostFails (host : Host) : Activity → Fault → Prop
  | itself {depth : Nat} {f : Value} {args : List Value} {s : Store} {fault : Fault}
      (hclosure : ∀ c, f ≠ .function (.closure c))
      (h : FailsItself host ⟨depth + 1, .apply f args, s⟩ fault)
      (hfault : fault.Unplaced ∨ ∃ k, f = .function (.host k)) :
      HostFails host ⟨depth + 1, .apply f args, s⟩ fault
  | back {a inner : Activity} {fault : Fault} (hinside : Inside host .callback inner a)
      (ha : a.Fails host fault) (h : HostFails host inner fault) : HostFails host a fault

/-- The error begins at the call that the activity evaluates. -/
inductive StartsAt (host : Host) : Activity → Diagnostic → Prop
  | refused {c : Activity} {d : Diagnostic} (h : Refuses host c d) : StartsAt host c d
  | raised {c applied : Activity} {callee : String} {location : Location} {mishap : Mishap}
      (hinside : Inside host (.call callee location) applied c)
      (h : HostFails host applied (.raised mishap)) :
      StartsAt host c
        ⟨.evaluation, .callFailed callee mishap.category mishap.reason, some location⟩

/-- The host states the error itself, in the call that the activity evaluates. -/
inductive StatedAt (host : Host) : Activity → Diagnostic → Prop
  | stated {c applied : Activity} {callee : String} {location : Location} {d : Diagnostic}
      (hinside : Inside host (.call callee location) applied c)
      (h : HostFails host applied (.script d)) : StatedAt host c d

/-- No evaluation that the activity starts fails. -/
def Innermost (host : Host) (c : Activity) : Prop :=
  ∀ link inner scope node e, Inside host link inner c → inner.task = .eval scope node →
    ¬ inner.Fails host e

/-- The fault is followed inwards to the call that it begins at. -/
def BeginsAtCall (host : Host) (a : Activity) (fault : Fault) : Prop :=
  ∃ links c d, Trail host a fault links c (.script d) ∧ (StartsAt host c d ∨ StatedAt host c d)

section Beginnings

variable {host : Host}

theorem BeginsAtCall.inward {a inner : Activity} {link : Link} {e : Fault}
    (h : a.Fails host (link.hand e)) (hinside : Inside host link inner a)
    (hinner : BeginsAtCall host inner e) : BeginsAtCall host a (link.hand e) := by
  obtain ⟨links, c, d, htrail, hstart⟩ := hinner
  exact ⟨link :: links, c, d, .inward h hinside htrail, hstart⟩

theorem HostFails.fails {a : Activity} {fault : Fault} (h : HostFails host a fault) :
    a.Fails host fault := by
  cases h with
  | itself hclosure h hfault => exact h.fails
  | back hinside ha h => exact ha

theorem HostFails.unspoken {a : Activity} {fault : Fault} (h : HostFails host a fault)
    (hwordless : fault.Wordless) : Speechless host a fault := by
  induction h with
  | @itself depth f args s fault hclosure h hfault =>
      rcases hfault with hunplaced | ⟨k, rfl⟩
      · cases fault with
        | wordlessFailure why => exact absurd hunplaced id
        | wordlessError why => exact absurd hunplaced id
        | _ => exact absurd hwordless id
      · exact ComesOf.here h.fails (.wordless hwordless)
  | back hinside ha h ih => exact ComesOf.inward ha hinside (ih hwordless)

theorem beginsAtCall_of_hostFails {c applied : Activity} {callee : String} {location : Location}
    {e : Fault} (hc : c.Fails host ((Link.call callee location).hand e))
    (hkind : ∀ kind, (Link.call callee location).hand e ≠ .interrupted kind)
    (hroom : ¬ RunsOut host c ((Link.call callee location).hand e))
    (hwords : ¬ Speechless host c ((Link.call callee location).hand e))
    (hinside : Inside host (.call callee location) applied c) (h : HostFails host applied e) :
    BeginsAtCall host c ((Link.call callee location).hand e) := by
  cases e with
  | script d => exact ⟨[], c, d, .here hc, .inr (.stated hinside h)⟩
  | raised mishap => exact ⟨[], c, _, .here hc, .inl (.raised hinside h)⟩
  | interrupted kind => exact absurd rfl (hkind kind)
  | exhausted => exact absurd (ComesOf.inward hc hinside (.here h.fails rfl)) hroom
  | wordlessFailure why => exact absurd (ComesOf.inward hc hinside (h.unspoken trivial)) hwords
  | wordlessError why => exact absurd (ComesOf.inward hc hinside (h.unspoken trivial)) hwords

/-- Where all arguments are evaluated, a call has only the program of a file left to evaluate. -/
theorem innermost_of_arguments {depth : Nat} {scope : Scope} {callee : String} {args : List Node}
    {span : Span} {values : List Value} {s s₁ : Store}
    (hargs : evalAll (perform host depth) scope args s = .ok values s₁)
    (hfile : ∀ path location inner, ¬ Inside host (.file path location) inner
      ⟨depth + 1, .eval scope (.call callee args span), s⟩) :
    Innermost host ⟨depth + 1, .eval scope (.call callee args span), s⟩ := by
  intro link inner scope' node e hinside htask hfails
  cases hinside with
  | part hparts hbefore =>
      rw [Node.parts] at hparts
      split at hparts
      · obtain ⟨v, s₂, hitem⟩ := completes_of_evalAll (hparts ▸ hargs) hbefore
        obtain ⟨s', hfails⟩ := hfails
        cases hitem.symm.trans hfails
      · exact absurd hparts (by simp)
  | call hcallee hf hargs => cases htask
  | file hargs hread htokens hparse =>
      exact hfile _ _ _ (.file hargs hread htokens hparse)

theorem Refuses.innermost {c : Activity} {d : Diagnostic} (h : Refuses host c d) :
    Innermost host c := by
  cases h with
  | notCallable hcallee hnone =>
      intro link inner scope' node e hinside htask hfails
      cases hinside with
      | part hparts hbefore =>
          rw [Node.parts, if_neg (by simp [hcallee, hnone])] at hparts
          exact absurd hparts (by simp)
      | call hcallee hf hargs => cases htask
      | file hargs hread htokens hparse => exact hcallee rfl
  | arguments hargs hpath =>
      refine innermost_of_arguments hargs ?_
      rintro path location inner hfile
      cases hfile with
      | file hargs' hread htokens hparse =>
          cases hargs.symm.trans hargs'
          exact hpath _ rfl
  | unread hargs hread =>
      refine innermost_of_arguments hargs ?_
      rintro path location inner hfile
      cases hfile with
      | file hargs' hread' htokens hparse =>
          cases hargs.symm.trans hargs'
          cases hread.symm.trans hread'
  | unloaded hargs hread hload =>
      refine innermost_of_arguments hargs ?_
      rintro path location inner hfile
      cases hfile with
      | file hargs' hread' htokens hparse =>
          cases hargs.symm.trans hargs'
          cases hread.symm.trans hread'
          rcases hload with hrefused | ⟨tokens, htokens', hparse'⟩
          · cases hrefused.symm.trans htokens
          · cases htokens'.symm.trans htokens
            cases hparse'.symm.trans hparse

theorem Inside.innermost_of_call {c applied : Activity} {callee : String} {location : Location}
    (h : Inside host (.call callee location) applied c) : Innermost host c := by
  cases h with
  | call hcallee hf hargs =>
      refine innermost_of_arguments hargs ?_
      rintro path location inner hfile
      cases hfile with
      | file hargs' hread htokens hparse => exact hcallee rfl

theorem StartsAt.innermost {c : Activity} {d : Diagnostic} (h : StartsAt host c d) :
    Innermost host c := by
  cases h with
  | refused h => exact h.innermost
  | raised hinside h => exact hinside.innermost_of_call

theorem StatedAt.innermost {c : Activity} {d : Diagnostic} (h : StatedAt host c d) :
    Innermost host c := by
  cases h with
  | stated hinside h => exact hinside.innermost_of_call

/-- Along its trail the fault of an evaluation comes of a call; that of an application does so
too, or it fails in the host, and then it is for the call around it to say so. -/
theorem beginsAtCall_of_trail (hthrough : host.LetsThrough) {a last : Activity} {links : List Link}
    {fault first : Fault} (h : Trail host a fault links last first)
    (horigin : Origin host last first) (hkind : ∀ kind, fault ≠ .interrupted kind)
    (hroom : ¬ RunsOut host a fault) (hwords : ¬ Speechless host a fault) :
    BeginsAtCall host a fault ∨ (∃ f args, a.task = .apply f args) ∧ HostFails host a fault := by
  induction h with
  | here h =>
      cases horigin with
      | refused hrefuses => exact .inl ⟨[], _, _, .here h, .inl (.refused hrefuses)⟩
      | overlong hlong => exact absurd (ComesOf.here h (.overlong hlong)) hwords
      | tooDeep => exact absurd (ComesOf.here h rfl) hroom
      | library hclosure hhost hitself hfault =>
          exact .inr ⟨⟨_, _, rfl⟩, .itself hclosure hitself (.inl hfault)⟩
      | host hcases =>
          have hitself := hcases.resolve_right fun hcatches => hcatches (hthrough _ _)
          exact .inr ⟨⟨_, _, rfl⟩, .itself nofun hitself (.inr ⟨_, rfl⟩)⟩
  | @inward a inner last link links e first h hinside rest ih =>
      have hkind' (kind : String) : e ≠ .interrupted kind := by
        rintro rfl
        exact hkind kind (by cases link <;> rfl)
      rcases ih horigin hkind' (fun hout => hroom (hout.inward h hinside))
        (fun hdumb => hwords (hdumb.inward h hinside)) with hbegins | ⟨⟨f, xs, htask⟩, hhost⟩
      · exact .inl (hbegins.inward h hinside)
      · cases hinside with
        | call hcallee hf hargs =>
            exact .inl (beginsAtCall_of_hostFails h hkind hroom hwords (.call hcallee hf hargs)
              hhost)
        | callback hcalls => exact .inr ⟨⟨_, _, rfl⟩, .back (.callback hcalls) h hhost⟩
        | _ => cases htask

end Beginnings

/-! ## Three files

    outer.tf    include("inner.tf");
    inner.tf    nope();
    stated.tf   f(1);

The function `f` is one of the host's, and states an error without a place.
-/

namespace ThreeFiles

/-- The source of a file in the root directory. -/
def fileOf (name text : String) : Source := { text, name, path := some ("/" ++ name) }

def outer : Source := fileOf "outer.tf" "include(\"inner.tf\");"

def inner : Source := fileOf "inner.tf" "nope();"

def stated : Source := fileOf "stated.tf" stating.text

def world : World where
  files := .dir ([outer, inner, stated].map fun source => (source.name, .file source.text.toUTF8))

/-- From `base` the name of a file leads to it. -/
def Leads (base : Option String) (name text : String) : Prop :=
  File.Path.resolve world.place name base = .ok ("/" ++ name) ∧
    world.files.textAt world.place .utf8 ("/" ++ name) = .ok text

/-- The names lead to the files, and the directory of a file is the root. -/
theorem names_lead : Leads none "outer.tf" outer.text ∧ Leads (some "/") "inner.tf" inner.text ∧
    Leads none "stated.tf" stated.text ∧ outer.directory world.place = some "/" := by
  unfold Leads
  decide +kernel

/-- Where a script with the library and `f` is evaluated. -/
def scopeOf (source : Source) : Scope := ⟨0, source, 0⟩

/-- The place of a call that includes a file. -/
def includeSpan (path : String) : Span := inFirstLine 0 (path.length + 11)

/-- The call that includes a file. -/
def includeOf (path : String) : Node :=
  .call includeWord [.literal (.text path) (inFirstLine 8 (path.length + 2))] (includeSpan path)

def outerPieces : List Piece :=
  [⟨.identifier, "include".toList⟩, ⟨.operator, ['(']⟩, ⟨.string, "\"inner.tf\"".toList⟩,
   ⟨.operator, [')']⟩, ⟨.operator, [';']⟩]

theorem outer_read : outer.IsReadAs [includeOf "inner.tf"] :=
  ⟨_, _, tokenize_eq_ok_iff.2 ⟨outerPieces, by decide +kernel, by decide +kernel, rfl⟩,
    parseProgram_eq_ok_iff.2 ⟨_, rfl, rfl⟩⟩

def innerPieces : List Piece :=
  [⟨.identifier, "nope".toList⟩, ⟨.operator, ['(']⟩, ⟨.operator, [')']⟩, ⟨.operator, [';']⟩]

theorem inner_read : inner.IsReadAs [.call "nope" [] (inFirstLine 0 6)] :=
  ⟨_, _, tokenize_eq_ok_iff.2 ⟨innerPieces, by decide +kernel, by decide +kernel, rfl⟩,
    parseProgram_eq_ok_iff.2 ⟨_, rfl, rfl⟩⟩

theorem stated_read :
    stated.IsReadAs [.call "f" [.literal (.integer 1) (inFirstLine 2 1)] (inFirstLine 0 4)] :=
  ⟨_, _, tokenize_eq_ok_iff.2 ⟨statingPieces, by decide +kernel, by decide +kernel, rfl⟩,
    parseProgram_eq_ok_iff.2 ⟨_, rfl, rfl⟩⟩

/-- An `include` enters a file with one statement, and the file's program fails as the
statement does. -/
theorem enters_file {name text : String} {here : Source} {base : Option String} {depth : Nat}
    {statement : Node} {s : Store} {e : Fault} (hworld : s.world = world)
    (hbase : includeBase s (scopeOf here) = base) (hleads : Leads base name text)
    (hprogram : (fileOf name text).IsReadAs [statement])
    (h : Activity.Fails statingHost ⟨depth, .eval (scopeOf (fileOf name text)) statement,
      { s with requested := ("/" ++ name) :: s.requested }⟩ e) :
    ∃ program, Inside statingHost (.file name (.ofSpan here (includeSpan name))) program
        ⟨depth + 2, .eval (scopeOf here) (includeOf name), s⟩ ∧ program.Fails statingHost e := by
  obtain ⟨tokens, span, htokens, hparse⟩ := hprogram
  obtain ⟨hresolve, htext⟩ := hleads
  obtain ⟨s', h⟩ := h
  subst hbase
  have hread : Source.read s.world .utf8 name (includeBase s (scopeOf here)) =
      .ok (fileOf name text) := by
    simp only [Source.read, hworld, hresolve, htext, fileOf]
  have hrequest : s.request name (includeBase s (scopeOf here)) =
      { s with requested := ("/" ++ name) :: s.requested } := by
    simp only [Store.request, hworld, hresolve]
  refine ⟨_, .file rfl hread htokens hparse, s', ?_⟩
  rw [hrequest]
  exact Run.bind_of_error h

def nopeReport : Diagnostic :=
  ⟨.evaluation, .notCallable "nope" "none", some (.ofSpan inner (inFirstLine 0 6))⟩

/-- What the `include` in `outer.tf` makes of it. -/
def innerReport : Diagnostic :=
  nopeReport.inFile "inner.tf" (.ofSpan outer (includeSpan "inner.tf"))

/-- A script that includes a file. -/
def script (path : String) : Source := { text := "include(\"" ++ path ++ "\");" }

/-- Where the script includes the file. -/
def place (path : String) : Location := .ofSpan (script path) (includeSpan path)

def run (path : String) : Activity :=
  ⟨5, .eval (scopeOf (script path)) (includeOf path), statingStore world⟩

/-- What the `include` in the script makes of the error in `outer.tf`. -/
def outerReport : Diagnostic := innerReport.inFile "outer.tf" (place "outer.tf")

theorem base_script (path : String) :
    includeBase (statingStore world) (scopeOf (script path)) = none := rfl

theorem base_outer {s : Store} (hworld : s.world = world) :
    includeBase s (scopeOf outer) = some "/" := by
  show (outer.directory s.world.place).or _ = _
  rw [hworld, names_lead.2.2.2, Option.some_or]

theorem nope_fails {s : Store} (h : (scopeOf inner).value s "nope" = .nothing) :
    Activity.Fails statingHost ⟨1, .eval (scopeOf inner) (.call "nope" [] (inFirstLine 0 6)), s⟩
      (.script nopeReport) := by
  have hrefuses : Refuses statingHost
      ⟨1, .eval (scopeOf inner) (.call "nope" [] (inFirstLine 0 6)), s⟩ _ :=
    .notCallable (by decide) (by rw [h]; rfl)
  rw [h] at hrefuses
  exact hrefuses.fails

theorem inner_fails {s : Store} (hworld : s.world = world)
    (h : (scopeOf inner).value s "nope" = .nothing) :
    Activity.Fails statingHost ⟨3, .eval (scopeOf outer) (includeOf "inner.tf"), s⟩
      (.script innerReport) := by
  obtain ⟨program, hinside, hfails⟩ :=
    enters_file hworld (base_outer hworld) names_lead.2.1 inner_read (nope_fails h)
  exact fails_of_file hinside hfails

theorem outer_fails : (run "outer.tf").Fails statingHost (.script outerReport) := by
  obtain ⟨program, hinside, hfails⟩ :=
    enters_file rfl (base_script _) names_lead.1 outer_read (inner_fails rfl rfl)
  exact fails_of_file hinside hfails

theorem stated_fails : ∃ program,
    Inside statingHost (.file "stated.tf" (place "stated.tf")) program (run "stated.tf") ∧
      program.Fails statingHost (.script statedReport) :=
  enters_file rfl (base_script _) names_lead.2.2.1 stated_read ⟨_, rfl⟩

end ThreeFiles

/-! ## The error that surfaces -/

/-- Where the host lets faults through, an evaluation that fails, other than for want of depth
or of words or by an interruption, does so from one call on: a call that is refused, one whose
function fails in the library or in the host, or one in which the host states an error itself.
No evaluation inside that call fails.  What surfaces is the error of the call behind one layer
for each `include` on the way; nothing else on the way has changed it. -/
theorem error_provenance {host : Host} (hthrough : host.LetsThrough) {depth : Nat} {scope : Scope}
    {node : Node} {s s' : Store} {fault : Fault}
    (hfails : perform host depth (.eval scope node) s = .error fault s')
    (hkind : ∀ kind, fault ≠ .interrupted kind)
    (hroom : ¬ RunsOut host ⟨depth, .eval scope node, s⟩ fault)
    (hwords : ¬ Speechless host ⟨depth, .eval scope node, s⟩ fault) :
    ∃ links c d top, Trail host ⟨depth, .eval scope node, s⟩ fault links c (.script d) ∧
      (StartsAt host c d ∨ StatedAt host c d) ∧ Innermost host c ∧
      fault = .script top ∧ Layered (Link.files links) d top := by
  have hbegins : BeginsAtCall host ⟨depth, .eval scope node, s⟩ fault := by
    have hactivity : Activity.Fails host ⟨depth, .eval scope node, s⟩ fault := ⟨s', hfails⟩
    obtain ⟨links, last, first, htrail, horigin⟩ := origin_of_fails hactivity
    refine (beginsAtCall_of_trail hthrough htrail horigin hkind hroom hwords).resolve_right ?_
    rintro ⟨⟨f, args, htask⟩, -⟩
    cases htask
  obtain ⟨links, c, d, htrail, hstart⟩ := hbegins
  obtain ⟨top, hfault, hlayered⟩ := htrail.layered
  have hinnermost : Innermost host c := hstart.elim StartsAt.innermost StatedAt.innermost
  exact ⟨links, c, d, top, htrail, hstart, hinnermost, hfault, hlayered⟩

theorem statingHost_letsThrough : statingHost.LetsThrough := fun _ _ => .finish _

open ThreeFiles in
/-- The call of `nope` is behind two layers when its error surfaces. -/
theorem nope_behind_two_files :
    statingHost.LetsThrough ∧
      outerReport.message = "Failed to include 'outer.tf': EvalError at outer.tf:1:1: " ++
        "Failed to include 'inner.tf': EvalError at inner.tf:1:1: 'nope' is not callable (none)" ∧
      (run "outer.tf").Fails statingHost (.script outerReport) ∧
      ∃ links c d top,
        Trail statingHost (run "outer.tf") (.script outerReport) links c (.script d) ∧
        (StartsAt statingHost c d ∨ StatedAt statingHost c d) ∧ Innermost statingHost c ∧
        Fault.script outerReport = .script top ∧ Layered (Link.files links) d top := by
  obtain ⟨s', hfails⟩ := outer_fails
  have hmessage : outerReport.message =
      "Failed to include 'outer.tf': EvalError at outer.tf:1:1: " ++
        "Failed to include 'inner.tf': EvalError at inner.tf:1:1: " ++
          "'nope' is not callable (none)" := by
    decide +kernel
  have hspoken : ¬ (Fault.script outerReport).Choked := by
    have hend : nopeReport.message.toList <:+ outerReport.message.toList :=
      (message_suffix_inFile ..).trans (message_suffix_inFile ..)
    have hlast : nopeReport.message.toList.getLast? = some ')' := rfl
    exact not_choked (getLast?_of_suffix hend hlast) (by decide) (by decide)
  refine ⟨statingHost_letsThrough, hmessage, ⟨s', hfails⟩, ?_⟩
  exact error_provenance statingHost_letsThrough hfails nofun
    (fun hout => hspoken hout.choked) (fun hdumb => hspoken hdumb.choked)

open ThreeFiles in
/-- An error that the host states itself has no place if the host gives none, and what the
`include` around it says of it names none either. -/
theorem stated_error_names_no_place :
    statingHost.LetsThrough ∧
      ∃ program top,
        Inside statingHost (.file "stated.tf" (place "stated.tf")) program (run "stated.tf") ∧
        program.Fails statingHost (.script statedReport) ∧
        (run "stated.tf").Fails statingHost (.script top) ∧
        ¬ RunsOut statingHost (run "stated.tf") (.script top) ∧
        ¬ Speechless statingHost (run "stated.tf") (.script top) ∧
        ∀ place : String, top.message ≠
          "Failed to include 'stated.tf': EvalError at " ++ place ++ ": " ++
            statedReport.message := by
  obtain ⟨program, hinside, hprogram⟩ := stated_fails
  have hmessage : (statedReport.inFile "stated.tf" (place "stated.tf")).message =
      "Failed to include 'stated.tf': x" := rfl
  have hspoken : ¬ (Fault.script (statedReport.inFile "stated.tf" (place "stated.tf"))).Choked := by
    have hlast : statedReport.message.toList.getLast? = some 'x' := rfl
    exact not_choked (getLast?_of_suffix (message_suffix_inFile ..) hlast) (by decide) (by decide)
  refine ⟨statingHost_letsThrough, program, _, hinside, hprogram, fails_of_file hinside hprogram,
    fun hout => hspoken hout.choked, fun hdumb => hspoken hdumb.choked, ?_⟩
  intro shown hplaced
  have hlength := congrArg String.length (hmessage.symm.trans hplaced)
  have hshort : "Failed to include 'stated.tf': x".length = 32 := rfl
  have hlong : "Failed to include 'stated.tf': EvalError at ".length = 44 := rfl
  rw [hshort, String.length_append, String.length_append, String.length_append, hlong] at hlength
  omega

end Scriptlet
