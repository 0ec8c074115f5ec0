import Provision.Json.Basic

/-!
# Settings of a manifest

The executables that recipes call and the settings of the Dockerfile, with their defaults.  Each
is a record of texts that is written out field by field under the names that templates use.
-/

namespace Provision

/-- The names of the executables in recipes. -/
structure Commands where
  go : String := "go"
  curl : String := "curl"
  aws : String := "aws"
  tar : String := "tar"
  unzip : String := "unzip"
  mkdir : String := "mkdir"
  chmod : String := "chmod"
  rm : String := "rm"
  ln : String := "ln"
  touch : String := "touch"
  mv : String := "mv"
  pipx : String := "pipx"
  mvn : String := "mvn"
  java : String := "java"
deriving DecidableEq, Inhabited

namespace Commands

def fields (c : Commands) : List (String × String) :=
  [("go", c.go), ("curl", c.curl), ("aws", c.aws), ("tar", c.tar), ("unzip", c.unzip),
    ("mkdir", c.mkdir), ("chmod", c.chmod), ("rm", c.rm), ("ln", c.ln), ("touch", c.touch),
    ("mv", c.mv), ("pipx", c.pipx), ("mvn", c.mvn), ("java", c.java)]

def toJson (c : Commands) : Json :=
  .obj (c.fields.map (fun field => (field.1, .str field.2)))

end Commands

/-- Settings of the Dockerfile alone. -/
structure DockerfileSettings where
  fetchImage : String := "docker.io/library/buildpack-deps:bookworm"
  goImage : String := "docker.io/library/golang:1.22-bookworm"
  pythonImage : String := "docker.io/library/python:3.12-bookworm"
  mavenImage : String := "docker.io/library/maven:3-eclipse-temurin-21"
  s3Image : String := "docker.io/amazon/aws-cli:latest"
  stagePrefix : String := "make-env-"
  finalStage : String := "make-env"
  finalImage : String := "docker.io/library/debian:bookworm-slim"
  preCopy : Option String := none
  postCopy : Option String := none
  installDir : String := "/opt/make-env/bin"
deriving DecidableEq, Inhabited

namespace DockerfileSettings

def toJson (d : DockerfileSettings) : Json :=
  .obj
    [("fetch_image", .str d.fetchImage), ("go_image", .str d.goImage),
      ("python_image", .str d.pythonImage), ("maven_image", .str d.mavenImage),
      ("s3_image", .str d.s3Image), ("stage_prefix", .str d.stagePrefix),
      ("final_stage", .str d.finalStage), ("final_image", .str d.finalImage),
      ("pre_copy", .ofOption .str d.preCopy), ("post_copy", .ofOption .str d.postCopy),
      ("install_dir", .str d.installDir)]

end DockerfileSettings
end Provision
