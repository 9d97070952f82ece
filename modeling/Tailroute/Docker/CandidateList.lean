/-
# Docker.CandidateList — the containers an agent reports

`list_candidates` inspects every running container, drops the images of databases and
queues, and sorts the rest by name; `to_dto` is what goes over the wire. Docker lists
containers in no particular order. Their names are distinct, so the report does not show
it (`listCandidates_order`).
-/
import Tailroute.Common.Api
import Tailroute.Docker.Candidate

namespace Tailroute.Docker

open Tailroute.Theory Tailroute.Common

set_option autoImplicit false

/-- A container of the list, with the answer to its inspection. -/
structure ListedCandidate where
  id : Option Text
  inspect : Except Text CandidateInspect

def skipImagePrefixes : List Text :=
  ["redis:", "postgres:", "mysql:", "mongo:", "mariadb:", "memcached:", "rabbitmq:", "pgvector/",
    "tensorchord/"].map String.toList

/-- The name says prefixes; they are looked for anywhere in the image. -/
def shouldSkipImage (image : Text) : Bool :=
  skipImagePrefixes.any fun part => decide (part <:+: toAsciiLowercase image)

def NameLe (a b : ContainerCandidate) : Prop := a.containerName ≤ b.containerName

instance : DecidableRel NameLe := fun a b =>
  inferInstanceAs (Decidable (a.containerName ≤ b.containerName))

section Listing

variable (idna : Idna) (parseUrl : UrlParser)

/-- The loop body of `list_candidates`. -/
def listCandidate (l : ListedCandidate) : Option ContainerCandidate :=
  match l.id, l.inspect with
  | some id, .ok c =>
      (inspectCandidate idna parseUrl id c).filter fun c => !shouldSkipImage c.image
  | _, _ => none

def listCandidates (containers : List ListedCandidate) : List ContainerCandidate :=
  (containers.filterMap (listCandidate idna parseUrl)).insertionSort NameLe

/-- The URL under which a backend is suggested. -/
def suggestedUrl (b : Backend) : Text := trimEndMatches '/' b.baseUrl

def ContainerCandidate.toDto (c : ContainerCandidate) : DiscoveredContainerDto where
  identityKey := c.identityKey
  containerId := c.containerId
  containerName := c.containerName
  image := c.image
  networkMode := c.networkMode
  suggestedBackend := c.suggestedBackend.map suggestedUrl
  publishedPorts := sortedPorts (c.publishedPorts.map PublishedPort.hostPort)
  exposedPorts := c.exposedPorts
  composeProject := c.composeProject
  composeService := c.composeService
  hasTailsvcLabels := c.hasTailsvcLabels

/-- The body of the discovery report. -/
def report (containers : List ListedCandidate) : List DiscoveredContainerDto :=
  (listCandidates idna parseUrl containers).map ContainerCandidate.toDto

variable {idna parseUrl} {containers containers' : List ListedCandidate}

/-- **The report does not depend on the order of Docker's list.** -/
theorem listCandidates_order (order : containers.Perm containers')
    (distinct : ((containers.filterMap (listCandidate idna parseUrl)).map
      ContainerCandidate.containerName).Nodup) :
    listCandidates idna parseUrl containers = listCandidates idna parseUrl containers' := by
  have total : Std.Total NameLe := ⟨fun a b => le_total a.containerName b.containerName⟩
  have trans : IsTrans ContainerCandidate NameLe :=
    ⟨fun _ _ _ first second => le_trans first second⟩
  have sorted := fun l => List.pairwise_insertionSort NameLe
    (List.filterMap (listCandidate idna parseUrl) l)
  have perm : (listCandidates idna parseUrl containers).Perm
      (listCandidates idna parseUrl containers') :=
    (List.perm_insertionSort NameLe _).trans
      ((order.filterMap _).trans (List.perm_insertionSort NameLe _).symm)
  refine perm.eq_of_pairwise ?_ (sorted containers) (sorted containers')
  intro a b listed listed' first second
  have inList : ∀ c ∈ listCandidates idna parseUrl containers,
      c ∈ containers.filterMap (listCandidate idna parseUrl) :=
    fun c member => (List.perm_insertionSort NameLe _).mem_iff.mp member
  exact List.inj_on_of_nodup_map distinct (inList a listed)
    (inList b (perm.mem_iff.mpr listed')) (le_antisymm first second)

end Listing

end Tailroute.Docker
