import StagedTests.Cluster.Object
import StagedTests.Digest.Md5
import StagedTests.Json.Printer

/-!
# Jobs

The job that an invocation runs for. Its names label every object that is created for it, and its
description travels along with every pod. The object that owns what is created for the job is no
part of the description.
-/

namespace StagedTests

structure Job where
  inNamespace : String
  name : String
  buildId : String := ""
  prowJobId : String := ""
  owner : Option Owner := none
  deriving DecidableEq

namespace Job

def fields : Json.Fields Job :=
  (Json.Fields.nil fun inNamespace name buildId prowJobId =>
      Job.mk inNamespace name buildId prowJobId none)
    |>.required "namespace" .string
    |>.required "job" .string
    |>.defaulted "build_id" .string ""
    |>.defaulted "prow_job_id" .string ""

def decoder : Json.Decoder Job := fields.decoder "struct JobSpec"

def toJson (j : Job) : Json :=
  .object [("namespace", .string j.inNamespace), ("job", .string j.name),
    ("build_id", .string j.buildId), ("prow_job_id", .string j.prowJobId)]

/-- The description of the job as one line. There always is one: values fail to be written where the
name of a member is no text, where a value refuses to be written, or where there is no room for
what is written. A job has four members under fixed names, each of them a text, and any text can be
written; and a line is written into a string, which grows. -/
def line (j : Job) : String := j.toJson.compact

/-- A short digest of the job's name. -/
def nameHash (j : Job) : String :=
  String.ofList ((Md5.hexDigest j.name).take 5)

def createdByLabel : String := "created-by-ci"
def jobLabel : String := "job"
def buildIdLabel : String := "build-id"
def prowJobIdLabel : String := "prow.k8s.io/id"

/-- A label whose value is a name of the job, unless that is empty. -/
def labelUnlessEmpty (label value : String) (t : Table String) : Table String :=
  if value = "" then t else t.insert label value

/-- The labels of everything that is created for the job. -/
def labels (j : Job) : Table String :=
  (∅ : Table String).insert createdByLabel "true"
    |> labelUnlessEmpty jobLabel j.name
    |> labelUnlessEmpty buildIdLabel j.buildId
    |> labelUnlessEmpty prowJobIdLabel j.prowJobId

end Job

end StagedTests
