/-
**Processes on one image.**

Every command runs in a process of its own, and all that passes from one to the next is the image.
`BehavesAs` says what a row of processes shows of an image: each one answers, or fails, as the
dictionary says that the processes before it have left, and the image is byte for byte the old one
where the command failed or only looked. Between two processes anything may happen to the host but
to the bytes of the image. Which arguments stand for a command is left to the parser.

* `Process.ends`: a process ends as its command does;
* `behavesAs`: an image that keeps a dictionary behaves as the dictionary;
* `made_image_behaves`: an image that was made behaves as an empty dictionary.
-/

import Mathlib
import FlatVolume.Proofs.CommandLine.Commands

namespace FlatVolume.CommandLine

/-- A run of the program on a host. -/
structure Process (parser : Parser) where
  host : Host
  arguments : List String

variable {parser : Parser}

namespace Process

variable (process : Process parser) (place : Place) (image : Bytes)

def outcome : Outcome := (programWith parser process.arguments process.host).1

/-- The host when the process is over. -/
def after : Host := (programWith parser process.arguments process.host).2

/-- The arguments ask for a command on the image at the place, which has the given bytes. -/
structure Asks (command : Command) : Prop where
  parsed : parser process.arguments = .ok command
  leads : process.host.placeFor command.image = .ok place
  here : ∃ file, process.host.files[place]? = some file ∧ file.bytes = image

/-- The process leaves an image with the given bytes at the place, and nothing else is changed. -/
def Leaves : Prop := ∃ file, process.host.Puts place file process.after ∧ file.bytes = image

end Process

/-- Every process that works on the image at the place ends as the dictionary says and leaves an
image for the next one. -/
def BehavesAs (place : Place) : List (Process parser) → (image : Bytes) → Dictionary → Prop
  | [], _, _ => True
  | process :: rest, image, dictionary => ∀ command, process.Asks place image command →
    match dictionary.carryOut process.host command with
    | .ok (answer, next) =>
      (∃ output, process.outcome = .finished output ∧ answer.IsOutput output) ∧
      ∃ left, process.Leaves place left ∧ (command.OnlyLooks → left = image) ∧
        BehavesAs place rest left next
    | .error cause =>
      process.outcome = .failed [] cause ∧ process.Leaves place image ∧
        BehavesAs place rest image dictionary

variable {process : Process parser} {place : Place} {file : HostFile} {dictionary : Dictionary}

/-- A process that starts right after another one finds the image that was left. -/
theorem Process.Leaves.asks {next : Process parser} {image : Bytes} {command : Command}
    (leaves : process.Leaves place image) (follows : next.host = process.after)
    (parsed : parser next.arguments = .ok command)
    (leads : process.host.placeFor command.image = .ok place) : next.Asks place image command := by
  obtain ⟨file, puts, same⟩ := leaves
  refine ⟨parsed, ?_, file, ?_, same⟩
  · rw [follows]
    exact puts.placeFor leads
  · rw [follows]
    exact puts.here

/-- A process ends as its command does. -/
theorem Process.ends {command : Command} (parsed : parser process.arguments = .ok command)
    {success : Unit → Console Host → Prop} {failure : Failure → Console Host → Prop}
    (yields : Yields (run command) ⟨process.host, []⟩ success failure) :
    (∃ console, process.outcome = .finished console.output ∧ process.after = console.system ∧
      success () console) ∨
    ∃ cause console, process.outcome = .failed console.output cause ∧
      process.after = console.system ∧ failure cause console := by
  unfold outcome after programWith
  rw [parsed]
  dsimp only
  cases ended : run command ⟨process.host, []⟩ with
  | ok result console => exact .inl ⟨console, rfl, rfl, yields.of_ok ended⟩
  | error cause console => exact .inr ⟨cause, console, rfl, rfl, yields.of_error ended⟩

/-- An image that keeps a dictionary behaves as the dictionary. Each process leaves a file that
keeps what its command left of the dictionary, and the next one finds a file with the same
bytes. -/
theorem behavesAs (processes : List (Process parser)) (keeps : file.Keeps dictionary) :
    BehavesAs place processes file.bytes dictionary := by
  induction processes generalizing file dictionary with
  | nil => trivial
  | cons process rest hypothesis =>
    rintro command ⟨parsed, leads, copy, here, same⟩
    have obeys := run_obeys leads here (keeps.of_bytes same)
    rcases Process.ends parsed obeys with
      ⟨console, outcome, after, answer, next, answered, output, image, puts, kept⟩ |
      ⟨cause, console, outcome, after, failed, silent, image, puts, kept⟩
    · rw [answered]
      refine ⟨⟨_, outcome, output⟩, image.bytes, ⟨image, ?_, rfl⟩, fun looks => ?_,
        hypothesis kept.keeps⟩
      · rwa [after]
      · rw [kept.bytes looks, same]
    · rw [failed]
      refine ⟨?_, ⟨image, ?_, ?_⟩, hypothesis keeps⟩
      · rw [outcome, silent]
      · rwa [after]
      · rw [kept.bytes trivial, same]

/-- An image that is made where the path puts it behaves as an empty dictionary, whatever processes
then work on it. If it would be empty or too large, it is not made, and the host stays as it is.
The sizes meant are below `2 ^ 63` data blocks, for which the sum fits in 64 bits. -/
theorem made_image_behaves {arguments : List String} {disk : String} {dataBlocks : Nat}
    (asked : parser arguments = .ok (.make disk dataBlocks)) (host : Host) :
    let made : Process parser := ⟨host, arguments⟩
    (1 ≤ dataBlocks ∧ 2 + tableBlocksFor dataBlocks + dataBlocks ≤ maxTotalBlocks →
      ∀ place, host.placeFor disk = .ok place →
        made.outcome =
          .finished (utf8Bytes s!"Created {quoted disk} with {dataBlocks} data blocks\n") ∧
        ∃ image, made.Leaves place image ∧
          ∀ processes : List (Process parser),
            BehavesAs place processes image (.empty dataBlocks)) ∧
    (¬ (1 ≤ dataBlocks ∧ 2 + tableBlocksFor dataBlocks + dataBlocks ≤ maxTotalBlocks) →
      made.outcome = .failed [] (.volume .invalidArgument) ∧ made.after = host) := by
  intro made
  refine ⟨fun fits place leads => ?_, fun unfit => ?_⟩
  · obtain ⟨console, outcome, after, output, image, puts, keeps⟩ | ⟨_, _, _, _, impossible⟩ :=
      made.ends asked (make_yields leads fits)
    · refine ⟨by rw [outcome, output], image.bytes, ⟨image, ?_, rfl⟩, fun processes =>
        behavesAs processes keeps⟩
      rwa [after]
    · exact impossible.elim
  · obtain ⟨_, _, _, impossible⟩ | ⟨_, _, outcome, after, rfl, rfl⟩ :=
      made.ends asked (make_yields_of_unfit disk host unfit)
    · exact impossible.elim
    · exact ⟨outcome, after⟩

set_option maxRecDepth 20000 in
theorem made_image_behaves_two_bytes :
    let note : HostFile := .ofBytes [104, 105]
    let made : Process parse := ⟨Host.empty.setFile ["a"] note, ["make", "d", "2"]⟩
    let stored : Process parse := ⟨made.after, ["add", "d", "a"]⟩
    let printed : Process parse := ⟨stored.after, ["cat", "d", "a"]⟩
    made.outcome = .finished (utf8Bytes "Created \"d\" with 2 data blocks\n") ∧
      stored.outcome = .finished (utf8Bytes "Wrote 2 of 2 bytes to \"a\"\n") ∧
      printed.outcome = .finished [104, 105] := by
  intro note made stored printed
  have noted := Host.empty.puts_setFile ["a"] note
  have leads : made.host.placeFor "d" = .ok ["d"] := noted.placeFor (by cbv)
  have leadsNote : made.host.placeFor "a" = .ok ["a"] := noted.placeFor (by cbv)
  have asked : parse ["make", "d", "2"] = .ok (.make "d" 2) := by cbv
  obtain ⟨makes, image, left, behaves⟩ :=
    (made_image_behaves asked made.host).1 (by decide) ["d"] leads
  have adds : stored.Asks ["d"] image (.add "d" "a" none) :=
    left.asks rfl (by cbv) leads
  have found : stored.host.find "a" = .ok (["a"], note) := by
    obtain ⟨file, puts, _⟩ := left
    refine Host.find_of_placeFor (puts.placeFor leadsNote) ?_
    exact (puts.elsewhere ["a"] (by decide)).trans noted.here
  have bytes : note.bytes = [104, 105] := by cbv
  have added : (Dictionary.empty 2).carryOut stored.host (.add "d" "a" none) =
      .ok (.text "Wrote 2 of 2 bytes to \"a\"\n", ⟨2, [("a", [104, 105])]⟩) := by
    simp only [Dictionary.carryOut, found, Except.mapError, bind, Except.bind, bytes]
    cbv
  have storing := behaves [stored, printed] _ adds
  rw [added] at storing
  obtain ⟨⟨output, finished, isOutput⟩, next, leftStored, _, storing⟩ := storing
  have prints : printed.Asks ["d"] next (.print "d" "a") :=
    leftStored.asks rfl (by cbv) adds.leads
  obtain ⟨⟨printedOutput, printedFinished, isPrinted⟩, _⟩ := storing _ prints
  obtain rfl : printedOutput = [104, 105] := isPrinted
  obtain rfl := isOutput
  refine ⟨?_, finished, printedFinished⟩
  rw [makes]
  cbv

end FlatVolume.CommandLine
